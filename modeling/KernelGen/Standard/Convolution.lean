import KernelGen.Standard.Signature

/-! The source of a convolution. Windows of the input are copied to a buffer, reordered, and
multiplied two at a time by another kernel; a last single one is multiplied in place. -/
namespace KernelGen.Standard.Convolution

open Template

/-- What stands between the header and the function. -/
def opening : List Node :=
  [rows [
     "",
     "#include <assert.h>",
     "",
     "#include \"arm_math.h\"",
     "#include \"arm_cmixnn.h\"",
     "",
     "/**",
     " *  @ingroup CMIXNN",
     " */",
     "",
     "/**",
     " * @addtogroup CMIXConv",
     " * @\x7b",
     " */",
     ""]]

/-- The parameters of the function. -/
def parameters : List Node :=
  [lines [
     "(const uint8_t *Im_in,",
     "                    const uint16_t dim_im_in,",
     "                    const uint16_t ch_im_in,",
     "                    const uint8_t *wt,",
     "                    const uint16_t ch_im_out,",
     "                    const uint16_t dim_kernel,",
     "                    const uint8_t left_padding,",
     "                    const uint8_t right_padding,",
     "                    const uint8_t top_padding,",
     "                    const uint8_t bottom_padding,",
     "                    const uint16_t stride,",
     "                    const int32_t *bias,",
     "                    uint8_t *Im_out,",
     "                    const uint16_t dim_im_out,",
     "                    const uint8_t z_in,"],
   choose
     [(is .quantization "PACT", [rows ["                    const uint8_t z_wt,"]]),
      (is .quantization "PACT_CH", [rows ["                    const uint8_t *z_wt,"]])],
   chooseElse
     [(is .folding "thr", [rows ["                    const int16_t *thresholds,"]])]
     [rows ["                    const uint8_t z_out,"],
      chooseElse
        [(is .folding "icn",
           [rows [
              "                    const int32_t *m_zero,",
              "                    const int8_t *n_zero,"]])]
        [rows [
           "                    const int32_t m_zero,",
           "                    const int8_t n_zero,"]]],
   rows [
     "                    int16_t * bufferA,",
     "                    uint8_t *bufferB)"]]

/-- The head of the function. -/
def signature : List Node :=
  [rows ["arm_status", ""], hole .functionName] ++ parameters

/-- Local values, and the check of the channel numbers. -/
def setup : List Node :=
  [rows [
     "#if defined(ARM_MATH_DSP)",
     "    /* Run the following code for Cortex-M4 and Cortex-M7 */",
     "",
     "    int16_t i_out_y, i_out_x, i_ker_y, i_ker_x;",
     "    int16_t *pBuffer = bufferA;",
     "    uint8_t *pOut = Im_out;",
     "",
     "    if (ch_im_in % "],
   hole .inputMultiple,
   .text " != 0 || ch_im_out % ",
   hole .outputMultiple,
   lines [
     " != 0)",
     "    \x7b",
     "        /* check if the input dimension meets the constraints */",
     "        return ARM_MATH_SIZE_MISMATCH;",
     "    \x7d"]]

/-- What is copied to the buffer by the reordering, which depends on the precision. -/
def reorderArguments (u8 u4 u2 number : String) : List Node :=
  [.text "(",
   byPrecision .input [rows [u8]] [rows [u4]] [rows [u2]],
   rows [
     "                                                pBuffer,",
     number,
     "                                                z_in);"]]

/-- Copies one pixel of the window, reordered. -/
def load : List Node :=
  [rows ["                        "], hole .reorderFunction] ++
  reorderArguments
    "                                                Im_in + (i_ker_y * dim_im_in + i_ker_x) * ch_im_in,"
    "                                                Im_in + (((i_ker_y * dim_im_in + i_ker_x) * ch_im_in) >> 1),"
    "                                                Im_in + (((i_ker_y * dim_im_in + i_ker_x) * ch_im_in) >> 2),"
    "                                                ch_im_in,"

/-- Copies one row of the window, reordered. -/
def loadRow : List Node :=
  [rows ["                "], hole .reorderFunction] ++
  reorderArguments
    "                                                Im_in + (i_ker_y * dim_im_in + i_out_x * stride - top_padding) * ch_im_in,"
    "                                                Im_in + (((i_ker_y * dim_im_in + i_out_x * stride - top_padding) * ch_im_in) >> 1),"
    "                                                Im_in + (((i_ker_y * dim_im_in + i_out_x * stride - top_padding) * ch_im_in) >> 2),"
    "                                                ch_im_in * dim_kernel,"

/-- What the multiplication is called with. -/
def matMulArguments : List Node :=
  [lines [
     "(wt,",
     "                                                bufferA,",
     "                                                ch_im_out,",
     "                                                ch_im_in * dim_kernel * dim_kernel,",
     "                                                bias,",
     "                                                pOut,",
     "                                                z_wt,"],
   chooseElse
     [(is .folding "thr",
        [rows [
           "                                                thresholds);"]])]
     [rows [
        "                                                z_out,",
        "                                                m_zero,",
        "                                                n_zero);"]]]

/-- Multiplies as soon as two windows are there. -/
def multiply : List Node :=
  [rows [
     "            if (pBuffer == bufferA + 2 * ch_im_in * dim_kernel * dim_kernel)",
     "            \x7b",
     "                pOut = "],
   hole .matMulFunction] ++
  matMulArguments ++
  [rows [
     "                /* counter reset */",
     "                pBuffer = bufferA;",
     "            \x7d"]]

/-- The rows of the output whose windows may lie outside of the input above or below. -/
def paddedRows : List Node :=
  [rows [
     "    \x7b",
     "        for (i_out_x = 0; i_out_x < dim_im_out; i_out_x++)",
     "        \x7b",
     "            /* This part implements the im2col function */",
     "            for (i_ker_y = i_out_y * stride - top_padding; i_ker_y < i_out_y * stride - top_padding + dim_kernel; i_ker_y++)",
     "            \x7b",
     "                for (i_ker_x = i_out_x * stride - left_padding; i_ker_x < i_out_x * stride - left_padding + dim_kernel; i_ker_x++)",
     "                \x7b",
     "                    if (i_ker_y < 0 || i_ker_y >= dim_im_in || i_ker_x < 0 || i_ker_x >= dim_im_in)",
     "                    \x7b",
     "                        memset(pBuffer, 0, sizeof(int16_t) * ch_im_in);",
     "                    \x7d",
     "                    else",
     "                    \x7b"]] ++
  load ++
  [rows [
     "                    \x7d",
     "                    pBuffer += ch_im_in;",
     "                \x7d",
     "            \x7d",
     ""]] ++
  multiply ++
  [rows ["        \x7d", "    \x7d"]]

/-- The columns of the output whose windows may lie outside of the input at the sides. -/
def paddedColumns : List Node :=
  [rows [
     "        \x7b",
     "            /* This part implements the im2col function */",
     "            for (i_ker_y = i_out_y * stride - top_padding; i_ker_y < i_out_y * stride - top_padding + dim_kernel; i_ker_y++)",
     "            \x7b",
     "                for (i_ker_x = i_out_x * stride - left_padding; i_ker_x < i_out_x * stride - left_padding + dim_kernel; i_ker_x++)",
     "                \x7b",
     "                    if (i_ker_x < 0 || i_ker_x >= dim_im_in)",
     "                    \x7b",
     "                        memset(pBuffer, 0, sizeof(int16_t) * ch_im_in);",
     "                    \x7d",
     "                    else",
     "                    \x7b"]] ++
  load ++
  [rows [
     "                    \x7d",
     "                    pBuffer += ch_im_in;",
     "                \x7d",
     "            \x7d",
     ""]] ++
  multiply ++
  [rows ["        \x7d"]]

/-- The columns whose windows lie inside of the input, where rows are copied whole. -/
def innerColumns : List Node :=
  [rows [
     "        \x7b",
     "            /* This part implements the im2col function */",
     "            for (i_ker_y = i_out_y * stride - top_padding; i_ker_y < i_out_y * stride - top_padding + dim_kernel; i_ker_y++)",
     "            \x7b"]] ++
  loadRow ++
  [rows [
     "                pBuffer += ch_im_in * dim_kernel;",
     "            \x7d",
     ""]] ++
  multiply ++
  [rows ["        \x7d"]]

/-- What is computed once for all channels. -/
def leftoverSetup : List Node :=
  [choose
     [(is .folding "weights",
        [rows [
           "        /* Negative N_ZERO Normalization */",
           "        int8_t n_zero1;",
           "        int8_t n_zero2;",
           "        __n_zero_negative_normalization(n_zero,&n_zero1,&n_zero2);"]]),
      (is .folding "icn",
        [rows [
           "        /* Negative N_ZERO Normalization */",
           "        int8_t n_zero1;",
           "        int8_t n_zero2;"]])],
   choose
     [(is .quantization "PACT",
        [rows [
           "        /* Offset over Weights */",
           "        int16_t VzA[2] = \x7bz_wt,z_wt\x7d;",
           "        const int16_t *pzA = VzA;",
           "        int32_t inzA = *__SIMD32(pzA);"]])]]

/-- How many blocks of weights are read at once. -/
def blockCount : List Node :=
  [byPrecision .weights
     [rows [
        "            uint16_t  colCnt = ch_im_in * dim_kernel * dim_kernel >> 2; // config.wt_data_t: u4 (4x uint8_t)"]]
     [rows [
        "            uint16_t  colCnt = ch_im_in * dim_kernel * dim_kernel >> 3; // config.wt_data_t: u4 (8x uint4_t)"]]
     [rows [
        "            uint16_t  colCnt = ch_im_in * dim_kernel * dim_kernel >> 4; // config.wt_data_t: u2 (16x uint2_t)"]]]

/-- The blocks. -/
def blocks : List Node :=
  [rows [
     "            while (colCnt)",
     "            \x7b",
     "                int32_t inA1, inA2;"],
   choose
     [(is .weights "u4", [rows ["                int32_t inA3, inA4;"]]),
      (is .weights "u2",
        [rows [
           "                int32_t inA3, inA4;",
           "                int32_t inA5, inA6;",
           "                int32_t inA7, inA8;"]])],
   rows ["                int32_t inB1, inB2;"],
   byPrecision .weights
     [rows [
        "                pA = (uint8_t *) read_and_pad_reordered_u8((void *)pA, &inA1, &inA2);"]]
     [rows [
        "                pA = (uint8_t *) read_and_pad_reordered_u4((void *)pA, &inA1, &inA2, &inA3, &inA4);"]]
     [rows [
        "                pA = (uint8_t *) read_and_pad_reordered_u2((void *)pA, &inA1, &inA2, &inA3, &inA4, &inA5, &inA6, &inA7, &inA8);"]],
   rows [
     "",
     "                inB1 = *__SIMD32(pB)++;",
     "                inA1 = __SSUB16(inA1, inzA);",
     "                inA2 = __SSUB16(inA2, inzA);",
     "                sum = __SMLAD(inA1, inB1, sum);",
     "                inB2 = *__SIMD32(pB)++;",
     "                sum = __SMLAD(inA2, inB2, sum);"],
   choose
     [(either (is .weights "u4") (is .weights "u2"),
        [rows [
           "                inB1 = *__SIMD32(pB)++;",
           "                inA3 = __SSUB16(inA3, inzA);",
           "                inA4 = __SSUB16(inA4, inzA);",
           "                sum = __SMLAD(inA3, inB1, sum);",
           "                inB2 = *__SIMD32(pB)++;",
           "                sum = __SMLAD(inA4, inB2, sum);"]])],
   choose
     [(is .weights "u2",
        [rows [
           "                inB1 = *__SIMD32(pB)++;",
           "                inA5 = __SSUB16(inA5, inzA);",
           "                inA6 = __SSUB16(inA6, inzA);",
           "                sum = __SMLAD(inA5, inB1, sum);",
           "                inB2 = *__SIMD32(pB)++;",
           "                sum = __SMLAD(inA6, inB2, sum);",
           "                inB1 = *__SIMD32(pB)++;",
           "                inA7 = __SSUB16(inA7, inzA);",
           "                inA8 = __SSUB16(inA8, inzA);",
           "                sum = __SMLAD(inA7, inB1, sum);",
           "                inB2 = *__SIMD32(pB)++;",
           "                sum = __SMLAD(inA8, inB2, sum);"]])],
   rows ["                colCnt--;", "            \x7d"]]

/-- How many weights are left. -/
def restCount : List Node :=
  [byPrecision .weights
     [rows [
        "            colCnt = ch_im_in * dim_kernel * dim_kernel & 0x3; // config.wt_data_t: u4 (4x uint8_t)"]]
     [rows [
        "            colCnt = ch_im_in * dim_kernel * dim_kernel & 0x7;; // config.wt_data_t: u4 (8x uint4_t)"]]
     [rows [
        "            colCnt = ch_im_in * dim_kernel * dim_kernel & 0xf; // config.wt_data_t: u2 (16x uint2_t)"]]]

/-- The weights that are left, one by one. -/
def rest : List Node :=
  [choose
     [(is .weights "u4", [rows ["            int wt_per_byte = 2;"]]),
      (is .weights "u2", [rows ["            int wt_per_byte = 4;"]])],
   rows [
     "            while (colCnt)",
     "            \x7b",
     "                uint8_t inB1 = (uint8_t) *pB++;",
     "                uint8_t inA1;"],
   byPrecision .weights
     [rows ["                inA1 = (uint8_t)*pA++;"]]
     [rows [
        "                switch(wt_per_byte)",
        "                \x7b",
        "                    case 2:",
        "                        inA1 = (uint8_t) __USAT(*pA, 4);",
        "                        break;",
        "                    case 1:",
        "                        inA1 = (uint8_t) __USAT(__ROR(*pA, 4), 4);",
        "                        pA++;",
        "                        break;",
        "                \x7d"]]
     [rows [
        "                switch(wt_per_byte)",
        "                \x7b",
        "                    case 4:",
        "                        inA1 = (uint8_t) __USAT(*pA, 2);",
        "                        break;",
        "                    case 3:",
        "                        inA1 = (uint8_t) __USAT(__ROR(*pA, 2), 2);",
        "                        break;",
        "                    case 2:",
        "                        inA1 = (uint8_t) __USAT(__ROR(*pA, 2), 4);",
        "                        break;",
        "                    case 1:",
        "                        inA1 = (uint8_t) __USAT(__ROR(*pA, 2), 6);",
        "                        pA++;",
        "                        break;",
        "                \x7d"]],
   choose
     [(is .quantization "PACT", [rows ["                inA1 -= z_wt;"]]),
      (is .quantization "PACT_CH", [rows ["                inA1 -= z_wt[i];"]])],
   rows [
     "                sum += inA1 * inB1;",
     "                colCnt--;",
     "            \x7d"]]

/-- Scales a sum to the output. -/
def normalize : List Node :=
  [choose
     [(is .folding "thr",
        [rows ["            /* Normalize by Thresholds ("],
         hole .output,
         .text " output) */",
         byPrecision .output
           [rows ["            #warning No threasholds available at u8"]]
           [rows [
              "            sum = __int16_to_u4((int16_t) sum, &thresholds[(i)<<4]);"]]
           [rows [
              "            sum = __int16_to_u2((int16_t) sum , &thresholds[(i)<<2]);"]]]),
      (is .folding "icn",
        [rows ["            /* Normalize by ICN ("],
         hole .output,
         lines [
           " output) */",
           "            __n_zero_negative_normalization(n_zero[i],&n_zero1,&n_zero2);",
           "            sum  = ((__HI_SMULL(sum << n_zero1 ,m_zero[i])) >> n_zero2) + z_out;"]]),
      (is .folding "weights",
        [rows ["            /* Normalize by PACT+FW ("],
         hole .output,
         lines [
           " output) */",
           "            sum  = ((__HI_SMULL(sum << n_zero1,m_zero)) >> n_zero2) + z_out;"]])]]

/-- Packs a sum into the output. -/
def store : List Node :=
  [rows ["            /* Store Outputs ("],
   hole .output,
   .text " output) */",
   byPrecision .output
     [rows ["            *pOut++ = (uint8_t) __USAT(sum, 8);"]]
     [rows [
        "            switch(pOut_per_byte)\x7b",
        "                case 2:",
        "                    *pOut  = ( __USAT(sum, 4) );",
        "                    pOut_per_byte--;",
        "                    break;",
        "                case 1:",
        "                    *pOut++ |= ( __USAT(sum, 4) << 4 );",
        "                    pOut_per_byte=2;",
        "                    break;",
        "            \x7d"]]
     [rows [
        "            switch(pOut_per_byte)\x7b",
        "                case 4:",
        "                    *pOut  = ( __USAT(sum, 2) );",
        "                    pOut_per_byte--;",
        "                    break;",
        "                case 3:",
        "                    *pOut |= ( __USAT(sum, 2) << 2);",
        "                    pOut_per_byte--;",
        "                    break;",
        "                case 2:",
        "                    *pOut |= ( __USAT(sum, 2) << 4);",
        "                    pOut_per_byte--;",
        "                    break;",
        "                case 1:",
        "                    *pOut++ |= ( __USAT(sum, 2) << 6);",
        "                    pOut_per_byte-=4;",
        "                    break;",
        "            \x7d"]]]

/-- The last window, if the number of windows is odd. -/
def leftover : List Node :=
  [rows [
     "    /* check if there is left-over for compute */",
     "    if (pBuffer != bufferA)",
     "    \x7b"]] ++
  leftoverSetup ++
  [rows [
     "",
     "        /* Weights Pointer */",
     "        const uint8_t *pA = wt;",
     "        int       i;"],
   choose
     [(is .output "u4", [rows ["        int pOut_per_byte = 2;"]]),
      (is .output "u2", [rows ["        int pOut_per_byte = 4;"]])],
   rows [
     "",
     "        for (i = 0; i < ch_im_out; i++)",
     "        \x7b"],
   choose
     [(is .quantization "PACT_CH",
        [rows [
           "            /* Offset over Weights */",
           "            int16_t VzA[2] = \x7bz_wt[i], z_wt[i]\x7d;",
           "            const int16_t *pzA = VzA;",
           "            int32_t inzA = *__SIMD32(pzA);"]])],
   rows [
     "            int32_t sum = bias[i];",
     "            int16_t *pB = bufferA;"]] ++
  blockCount ++
  [rows ["", "            /* accumulate over the vector */"]] ++
  blocks ++
  restCount ++
  rest ++
  normalize ++
  [rows [""]] ++
  store ++
  [rows ["        \x7d", "    \x7d"]]

/-- The end of the function. -/
def closing : List Node :=
  [rows [
     "#else",
     "#error \"Cortex-M0 and Cortex-M3 not supported\"",
     "    /* Run the following code as reference implementation for Cortex-M0 and Cortex-M3 */",
     "#endif /* ARM_MATH_DSP */",
     "",
     "    /* Return to application */",
     "    return ARM_MATH_SUCCESS;",
     "\x7d",
     "",
     "/**",
     " * @\x7d end of CMIXConv group",
     " */"]]

/-- The header, and what stands in front of the function. -/
def preamble : List Node :=
  [hole .header] ++
  opening ++
  [rows ["  /**"]] ++
  Signature.convolutionNotes

/-- The body of the function. -/
def code : List Node :=
  [rows ["\x7b", ""]] ++
  setup ++
  [rows [
     "",
     "    /*",
     "     *  Here we split the entire matrix into three regions depending on the padding situation",
     "     *    Top: i_out_y from 0 to padding - 1",
     "     * Middle: i_out_y from padding to dim_im_out-padding-1",
     "     * Bottom: i_out_y from dim_im_out-padding to dim_im_out-1",
     "     */",
     "",
     "    /* top part */",
     "    for (i_out_y = 0; i_out_y < top_padding; i_out_y++)"]] ++
  paddedRows ++
  [rows [
     "",
     "    /* middle part, here we also divide the x into left, mid and right */",
     "    for (; i_out_y < dim_im_out - bottom_padding; i_out_y++)",
     "    \x7b",
     "",
     "        /* left part */",
     "        for (i_out_x = 0; i_out_x < left_padding; i_out_x++)"]] ++
  paddedColumns ++
  [rows [
     "",
     "        /* mid part */",
     "        for (; i_out_x < dim_im_out - right_padding; i_out_x++)"]] ++
  innerColumns ++
  [rows [
     "",
     "        /* right part */",
     "        for (; i_out_x < dim_im_out; i_out_x++)"]] ++
  paddedColumns ++
  [rows [
     "    \x7d",
     "",
     "    for (; i_out_y < dim_im_out; i_out_y++)"]] ++
  paddedRows ++
  [rows [""]] ++
  leftover ++
  [rows [""]] ++
  closing ++
  [rows [""]]

/-- The header and the function. -/
def nodes : List Node := preamble ++ signature ++ code

end KernelGen.Standard.Convolution
