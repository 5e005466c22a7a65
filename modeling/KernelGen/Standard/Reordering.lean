import KernelGen.Standard.Signature

/-! The source of a reordering. Packed values are widened in blocks; what is left of them is
widened one by one. -/
namespace KernelGen.Standard.Reordering

open Template

/-- What stands between the header and the function. -/
def opening : List Node :=
  [rows [
     " ",
     "#include \"arm_math.h\"",
     "#include \"arm_cmixnn.h\"",
     "",
     "#include \"arm_cmixnn_support.h\"",
     "",
     "/**",
     " * @ingroup groupSupport",
     " */",
     "",
     "/**",
     " * @addtogroup CMixNN_convert",
     " * @\x7b",
     " */",
     ""]]

/-- The parameters of the function. -/
def parameters : List Node :=
  [lines [
     "(",
     "\t\tconst uint8_t *pSrc,",
     "\t\tint16_t *pDst,",
     "\t\tuint32_t blockSize,",
     "\t    const uint8_t offset)"]]

/-- The head of the function. -/
def signature : List Node :=
  [rows ["", "void", ""], hole .functionName] ++ parameters

/-- Local values. -/
def setup : List Node :=
  [rows ["    int32_t   in;"],
   byPrecision .input
     [rows ["    int32_t   in1, in2;"]]
     [rows ["    int32_t   in1, in2, in3, in4;"]]
     [rows ["    int32_t   in1, in2, in3, in4, in5, in6, in7, in8;"]],
   rows ["    int32_t   offset_vect = *__SIMD32(offset_ptr);"]]

/-- How many words are read at once. -/
def blockCount : List Node :=
  [rows ["    /*loop Unrolling */"],
   byPrecision .input
     [rows ["    blkCnt = blockSize >> 2u; // 4-elements block"]]
     [rows ["    blkCnt = blockSize >> 3u; // 8-elements block"]]
     [rows ["    blkCnt = blockSize >> 4u; // 16-elements block"]]]

/-- Unpacks a word and takes the offset off. -/
def unpackShifted : List Node :=
  [byPrecision .input
     [rows [
        "\t\t\tin1 = __UXTB16(__ROR(in, 8));",
        "\t\t\tin2 = __UXTB16(in);",
        "",
        "            in1 = __SSUB16(in1, offset_vect);",
        "\t        in2 = __SSUB16(in2, offset_vect);"]]
     [rows [
        "            in4 = __UXTB16(__ROR(__UXTB16( in << 4), 4));",
        "            in3 = __UXTB16(__ROR(__UXTB16( in     ), 4));",
        "            in2 = __UXTB16(__ROR(__UXTB16( in >> 4), 4));",
        "            in1 = __UXTB16(__ROR(__UXTB16( in >> 8), 4));",
        "",
        "            in4 = __SSUB16(in4, offset_vect);",
        "\t        in3 = __SSUB16(in3, offset_vect);",
        "            in2 = __SSUB16(in2, offset_vect);",
        "\t        in1 = __SSUB16(in1, offset_vect);"]]
     [rows [
        "            in8 = __UXTB16(__ROR(__UXTB16( in << 6), 6));",
        "            in7 = __UXTB16(__ROR(__UXTB16( in << 4), 6));",
        "            in6 = __UXTB16(__ROR(__UXTB16( in << 2), 6));",
        "            in5 = __UXTB16(__ROR(__UXTB16( in     ), 6));",
        "",
        "            in4 = __UXTB16(__ROR(__UXTB16( in >> 2), 6));",
        "            in3 = __UXTB16(__ROR(__UXTB16( in >> 4), 6));",
        "            in2 = __UXTB16(__ROR(__UXTB16( in >> 6), 6));",
        "            in1 = __UXTB16(__ROR(__UXTB16( in >> 8), 6));",
        "",
        "\t        in8 = __SSUB16(in8, offset_vect);",
        "\t        in7 = __SSUB16(in7, offset_vect);",
        "\t        in6 = __SSUB16(in6, offset_vect);",
        "\t        in5 = __SSUB16(in5, offset_vect);",
        "            in4 = __SSUB16(in4, offset_vect);",
        "\t        in3 = __SSUB16(in3, offset_vect);",
        "            in2 = __SSUB16(in2, offset_vect);",
        "\t        in1 = __SSUB16(in1, offset_vect);"]]]

/-- Writes the values in their order for the processor. -/
def storeBlock : List Node :=
  [rows ["#ifndef ARM_MATH_BIG_ENDIAN"],
   byPrecision .input
     [rows [
        "            *__SIMD32(pDst)++ = in2;",
        "            *__SIMD32(pDst)++ = in1;"]]
     [rows [
        "            *__SIMD32(pDst)++ = in4;",
        "            *__SIMD32(pDst)++ = in3;",
        "            *__SIMD32(pDst)++ = in2;",
        "            *__SIMD32(pDst)++ = in1;"]]
     [rows [
        "            *__SIMD32(pDst)++ = in8;",
        "            *__SIMD32(pDst)++ = in7;",
        "            *__SIMD32(pDst)++ = in6;",
        "            *__SIMD32(pDst)++ = in5;",
        "            *__SIMD32(pDst)++ = in4;",
        "            *__SIMD32(pDst)++ = in3;",
        "            *__SIMD32(pDst)++ = in2;",
        "            *__SIMD32(pDst)++ = in1;"]],
   rows ["#else"],
   byPrecision .input
     [rows [
        "            *__SIMD32(pDst)++ = in1;",
        "            *__SIMD32(pDst)++ = in2;"]]
     [rows [
        "            *__SIMD32(pDst)++ = in1;",
        "            *__SIMD32(pDst)++ = in2;",
        "            *__SIMD32(pDst)++ = in3;",
        "            *__SIMD32(pDst)++ = in4;"]]
     [rows [
        "            *__SIMD32(pDst)++ = in1;",
        "            *__SIMD32(pDst)++ = in2;",
        "            *__SIMD32(pDst)++ = in3;",
        "            *__SIMD32(pDst)++ = in4;",
        "            *__SIMD32(pDst)++ = in5;",
        "            *__SIMD32(pDst)++ = in6;",
        "            *__SIMD32(pDst)++ = in7;",
        "            *__SIMD32(pDst)++ = in8;"]],
   rows ["#endif"]]

/-- Unpacks a word. -/
def unpack : List Node :=
  [byPrecision .input
     [rows [
        "\t\t\tin1 = __UXTB16(__ROR(in, 8));",
        "\t\t\tin2 = __UXTB16(in);"]]
     [rows [
        "            in4 = __UXTB16(__ROR(__UXTB16( in << 4), 4));",
        "            in3 = __UXTB16(__ROR(__UXTB16( in     ), 4));",
        "            in2 = __UXTB16(__ROR(__UXTB16( in >> 4), 4));",
        "            in1 = __UXTB16(__ROR(__UXTB16( in >> 8), 4));"]]
     [rows [
        "            in8 = __UXTB16(__ROR(__UXTB16( in << 6), 6));",
        "            in7 = __UXTB16(__ROR(__UXTB16( in << 4), 6));",
        "            in6 = __UXTB16(__ROR(__UXTB16( in << 2), 6));",
        "            in5 = __UXTB16(__ROR(__UXTB16( in     ), 6));",
        "",
        "            in4 = __UXTB16(__ROR(__UXTB16( in >> 2), 6));",
        "            in3 = __UXTB16(__ROR(__UXTB16( in >> 4), 6));",
        "            in2 = __UXTB16(__ROR(__UXTB16( in >> 6), 6));",
        "            in1 = __UXTB16(__ROR(__UXTB16( in >> 8), 6));"]]]

/-- How many values are left. -/
def restCount : List Node :=
  [byPrecision .input
     [rows ["    blkCnt = blockSize % 0x4u;"]]
     [rows ["    blkCnt = blockSize % 0x8u;"]]
     [rows ["    blkCnt = blockSize % 0x16u;"]]]

/-- The values that are left, one by one. -/
def rest : List Node :=
  [rows ["    while (blkCnt > 0u)", "    \x7b"],
   byPrecision .input
     [rows ["        *pDst++ = ((int16_t) * pIn++)-offset;"]]
     [rows [
        "        *pDst++ = (int16_t) __UXTB16(__ROR(__UXTB16( in_32 << 4), 4));",
        "        in_32 = __ROR(in_32, 4);"]]
     [rows [
        "        *pDst++ = (int16_t) __UXTB16(__ROR(__UXTB16( in_32 << 6), 6));",
        "        in_32 = __ROR(in_32, 2);"]],
   rows [
     "",
     "        /* Decrement the loop counter */",
     "        blkCnt--;",
     "    \x7d"]]

/-- The header, and what stands in front of the function. -/
def preamble : List Node :=
  [hole .header] ++
  opening ++
  [rows ["/**"]] ++
  Signature.reorderingNotes

/-- The body of the function. -/
def code : List Node :=
  [rows [
     "\x7b",
     "    const uint8_t *pIn = pSrc;  /* Src pointer */",
     "    uint32_t  blkCnt;           /* loop counter */",
     "    int16_t offsets[2] = \x7boffset, offset\x7d;",
     "    const int16_t *offset_ptr = offsets;",
     "",
     "#ifndef ARM_MATH_CM0_FAMILY"]] ++
  setup ++
  [rows [""]] ++
  blockCount ++
  [rows [
     "",
     "    /* First part of the processing with loop unrolling.",
     "       Second loop below computes the leftover */",
     "    if(offset)",
     "    \x7b",
     "\t\twhile (blkCnt > 0u)",
     "\t\t\x7b",
     "\t\t\tin = *__SIMD32(pIn)++;"]] ++
  unpackShifted ++
  [rows [""]] ++
  storeBlock ++
  [rows [
     "\t\t\t/* Decrement the loop counter */",
     "\t\t\tblkCnt--;",
     "\t\t\x7d",
     "    \x7d",
     "    else",
     "    \x7b",
     "\t\twhile (blkCnt > 0u)",
     "\t\t\x7b",
     "\t\t\tin = *__SIMD32(pIn)++;"]] ++
  unpack ++
  [rows [""]] ++
  storeBlock ++
  [rows [
     "",
     "\t\t\t/* Decrement the loop counter */",
     "\t\t\tblkCnt--;",
     "\t\t\x7d",
     "    \x7d",
     "",
     "    /* If the blockSize is not a multiple, compute any remaining output samples here.",
     "     ** No loop unrolling is used. */"]] ++
  restCount ++
  [rows [
     "#else",
     "#error \"Cortex-M0 is not supported\"",
     "#endif /* #ifndef ARM_MATH_CM0_FAMILY */"],
   choose
     [(either (is .input "u4") (is .input "u2"),
        [rows ["    int32_t in_32 = *((int32_t *)  pIn);"]])],
   rows [""]] ++
  rest ++
  [rows [
     "\x7d",
     "",
     "/**",
     " * @\x7d",
     " */",
     ""]]

/-- The header and the function. -/
def nodes : List Node := preamble ++ signature ++ code

end KernelGen.Standard.Reordering
