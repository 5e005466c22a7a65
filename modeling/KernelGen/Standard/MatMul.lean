import KernelGen.Standard.Signature
import KernelGen.Standard.Terms

/-! The source of a matrix multiplication. Two rows of weights are multiplied with two columns
at a time. -/
namespace KernelGen.Standard.MatMul

open Template

/-- The terms of use and a short account of the file. -/
def account : List Node :=
  Terms.terms ++
  [rows [
     "",
     "/* ----------------------------------------------------------------------",
     " * Project:      CMSIS NN Library - Mixed Precision INT-Q",
     " * Title:        "],
   hole .fileName,
   rows [
     " * Description:  Matrix-Multiplication function for",
     " *               "],
   hole .weights,
   lines [
     " x int16_t convolution with reordered columns.",
     " *               Output is then quantized to "],
   hole .output,
   .text " using ",
   hole .folding,
   rows [
     " *               config.folding technique.",
     " *",
     " * Target Processor:  Cortex-M cores",
     " * ",
     " * Modification: Mixed-Precision INT-Q extension",
     " *",
     " * $Date:        3 September 2019",
     " * $Revision:    V.1.2.0",
     " *",
     " * $Authors:     Alessandro Capotondi - alessandro.capotondi@unibo.it",
     " *               Marco Fariselli - marco.fariselli2@unibo.it ",
     " *               Manuele Rusci - manuele.rusci@unibo.it",
     " *               ",
     " * -------------------------------------------------------------------- */"]]

/-- The parameters of the function. -/
def parameters : List Node :=
  [lines [
     "(const uint8_t * pA,",
     "                            const int16_t * pInBuffer,",
     "                            const uint16_t ch_im_out,",
     "                            const uint16_t numCol_A,",
     "                            const int32_t * bias,",
     "                            uint8_t * pOut,"],
   choose
     [(is .quantization "PACT", [rows ["                            const uint8_t z_a,"]]),
      (is .quantization "PACT_CH", [rows ["                            const uint8_t *z_a,"]])],
   chooseElse
     [(is .folding "thr", [rows ["                            const int16_t * thresholds)"]]),
      (is .folding "icn",
        [rows [
           "                            const uint8_t z_out,",
           "                            const int32_t *m_zero,",
           "                            const int8_t *n_zero)"]])]
     [rows [
        "                            const uint8_t z_out,",
        "                            const int32_t m_zero,",
        "                            const int8_t n_zero)"]]]

/-- The head of the function. -/
def signature : List Node :=
  [rows ["", "uint8_t", "*"], hole .functionName] ++ parameters

/-- Local values, and what is computed once for all rows. -/
def setup : List Node :=
  [rows [
     "#if defined (ARM_MATH_DSP)",
     "    /* set up the second output pointers */"],
   byPrecision .output
     [rows ["    uint8_t *pOut2 = pOut + ch_im_out;"]]
     [rows [
        "    uint8_t *pOut2 = pOut + (ch_im_out>>1); // config.out_data_t: u4 (2CHs per-Bytes)"]]
     [rows [
        "    uint8_t *pOut2 = pOut + (ch_im_out>>2); // config.out_data_t: u2 (2CHs per-Bytes)"]],
   rows [
     "    int     i;",
     "    const int16_t *pB = pInBuffer;",
     "    const int16_t *pB2 = pB + numCol_A;"],
   choose
     [(is .folding "weights",
        [rows [
           "    /* Negative N_ZERO Normalization */",
           "    int8_t n_zero1;",
           "    int8_t n_zero2;",
           "    __n_zero_negative_normalization(n_zero,&n_zero1,&n_zero2);"]]),
      (is .folding "icn",
        [rows [
           "    /* Negative N_ZERO Normalization */",
           "    int8_t n_zero1;",
           "    int8_t n_zero2;"]])],
   choose
     [(is .quantization "PACT",
        [rows [
           "    int16_t VzA[2] = \x7bz_a,z_a\x7d;",
           "    const int16_t *pzA = VzA;",
           "    int32_t inzA = *__SIMD32(pzA);",
           "",
           "    /* Pre-compute z_a offset over the inputs */",
           "    int32_t z_a_offset  = 0;",
           "    int32_t z_a_offset2 = 0;",
           "",
           "    for (i = 0; i < numCol_A; i += 2) \x7b",
           "        int32_t inB1 = *__SIMD32(pB)++;",
           "        int32_t inB2 = *__SIMD32(pB2)++;",
           "        z_a_offset = __SMLAD(inzA, inB1, z_a_offset);",
           "        z_a_offset2 = __SMLAD(inzA, inB2, z_a_offset2);",
           "    \x7d",
           "",
           "    /* Leftover column */",
           "    if (numCol_A & 0x1)",
           "    \x7b",
           "        int16_t inB1 = *pB;",
           "        int16_t inB2 = *pB2;",
           "        z_a_offset += inB1*z_a;",
           "        z_a_offset2 += inB2*z_a;",
           "    \x7d"]])]]

/-- The sums that a pair of rows starts with. -/
def rowSetup : List Node :=
  [rows [
     "        /* setup pointers for B */",
     "        pB = pInBuffer;",
     "        pB2 = pB + numCol_A;",
     "",
     "        /* align the second pointer for A */"],
   byPrecision .weights
     [rows ["        const uint8_t *pA2 = pA + numCol_A;"]]
     [rows [
        "        const uint8_t *pA2 = pA + (numCol_A>>1); // config.wt_data_t: u4 (4Cols per-Byte)"]]
     [rows [
        "        const uint8_t *pA2 = pA + (numCol_A>>2); // config.wt_data_t: u2 (8Cols per-Byte)"]],
   chooseElse
     [(is .quantization "PACT",
        [rows [
           "        int32_t     sum =  bias[i] - z_a_offset;",
           "        int32_t     sum2 = bias[i] - z_a_offset2;",
           "        int32_t     sum3 = bias[i + 1] - z_a_offset;",
           "        int32_t     sum4 = bias[i + 1] - z_a_offset2;"]])]
     [rows [
        "        int16_t VzA[2] = \x7bz_a[i],z_a[i]\x7d;",
        "        const int16_t *pzA = VzA;",
        "        int32_t inzA = *__SIMD32(pzA);",
        "",
        "        int16_t VzA2[2] = \x7bz_a[i+1],z_a[i+1]\x7d;",
        "        const int16_t *pzA2 = VzA2;",
        "        int32_t inzA2 = *__SIMD32(pzA2);",
        "",
        "        int32_t     sum =  bias[i];",
        "        int32_t     sum2 = bias[i];",
        "        int32_t     sum3 = bias[i + 1];",
        "        int32_t     sum4 = bias[i + 1];"]]]

/-- How many blocks of weights are read at once. -/
def blockCount : List Node :=
  [byPrecision .weights
     [rows ["        uint16_t  colCnt = numCol_A >> 2;"]]
     [rows [
        "        uint16_t  colCnt = numCol_A >> 3; // config.wt_data_t: u4 (8x uint4_t)"]]
     [rows [
        "        uint16_t  colCnt = numCol_A >> 4; // config.wt_data_t: u2 (16x uint2_t)"]]]

/-- The blocks. -/
def blocks : List Node :=
  [rows [
     "        /* accumulate over the vector */",
     "        while (colCnt)",
     "        \x7b",
     "            int32_t inA11, inA12, inA21, inA22;"],
   choose
     [(is .weights "u4", [rows ["            int32_t inA13, inA14, inA23, inA24;"]]),
      (is .weights "u2",
        [rows [
           "            int32_t inA13, inA14, inA23, inA24;",
           "            int32_t inA15, inA16, inA25, inA26;",
           "            int32_t inA17, inA18, inA27, inA28;"]])],
   rows [
     "",
     "            int32_t inB1 = *__SIMD32(pB)++;",
     "            int32_t inB2 = *__SIMD32(pB2)++;"],
   byPrecision .weights
     [rows [
        "            pA = (uint8_t *) read_and_pad_reordered_u8((void *)pA, &inA11, &inA12);",
        "            pA2 = (uint8_t *) read_and_pad_reordered_u8((void *)pA2, &inA21, &inA22);"],
      choose
        [(is .quantization "PACT_CH",
           [rows [
              "            inA11 = __SSUB16(inA11, inzA);",
              "            inA12 = __SSUB16(inA12, inzA);",
              "            inA21 = __SSUB16(inA21, inzA2);",
              "            inA22 = __SSUB16(inA22, inzA2);"]])]]
     [rows [
        "            pA = (uint8_t *) read_and_pad_reordered_u4((void *)pA, &inA11, &inA12, &inA13, &inA14);",
        "            pA2 = (uint8_t *) read_and_pad_reordered_u4((void *)pA2, &inA21, &inA22, &inA23, &inA24);"],
      choose
        [(is .quantization "PACT_CH",
           [rows [
              "            inA11 = __SSUB16(inA11, inzA);",
              "            inA12 = __SSUB16(inA12, inzA);",
              "            inA21 = __SSUB16(inA21, inzA2);",
              "            inA22 = __SSUB16(inA22, inzA2);",
              "            inA13 = __SSUB16(inA13, inzA);",
              "            inA14 = __SSUB16(inA14, inzA);",
              "            inA23 = __SSUB16(inA23, inzA2);",
              "            inA24 = __SSUB16(inA24, inzA2);"]])]]
     [rows [
        "            pA = (uint8_t *) read_and_pad_reordered_u2((void *)pA, &inA11, &inA12, &inA13, &inA14, &inA15, &inA16, &inA17, &inA18);",
        "            pA2 = (uint8_t *) read_and_pad_reordered_u2((void *)pA2, &inA21, &inA22, &inA23, &inA24, &inA25, &inA26, &inA27, &inA28);"],
      choose
        [(is .quantization "PACT_CH",
           [rows [
              "            inA11 = __SSUB16(inA11, inzA);",
              "            inA12 = __SSUB16(inA12, inzA);",
              "            inA21 = __SSUB16(inA21, inzA2);",
              "            inA22 = __SSUB16(inA22, inzA2);",
              "            inA13 = __SSUB16(inA13, inzA);",
              "            inA14 = __SSUB16(inA14, inzA);",
              "            inA23 = __SSUB16(inA23, inzA2);",
              "            inA24 = __SSUB16(inA24, inzA2);",
              "            inA15 = __SSUB16(inA15, inzA);",
              "            inA16 = __SSUB16(inA16, inzA);",
              "            inA25 = __SSUB16(inA25, inzA2);",
              "            inA26 = __SSUB16(inA26, inzA2);",
              "            inA17 = __SSUB16(inA17, inzA);",
              "            inA18 = __SSUB16(inA18, inzA);",
              "            inA27 = __SSUB16(inA27, inzA2);",
              "            inA28 = __SSUB16(inA28, inzA2);"]])]],
   rows [
     "",
     "            sum = __SMLAD(inA11, inB1, sum);",
     "            sum2 = __SMLAD(inA11, inB2, sum2);",
     "            sum3 = __SMLAD(inA21, inB1, sum3);",
     "            sum4 = __SMLAD(inA21, inB2, sum4);",
     "",
     "            inB1 = *__SIMD32(pB)++;",
     "            inB2 = *__SIMD32(pB2)++;",
     "",
     "            sum = __SMLAD(inA12, inB1, sum);",
     "            sum2 = __SMLAD(inA12, inB2, sum2);",
     "            sum3 = __SMLAD(inA22, inB1, sum3);",
     "            sum4 = __SMLAD(inA22, inB2, sum4);"],
   choose
     [(is .weights "u4",
        [rows [
           "            inB1 = *__SIMD32(pB)++;",
           "            inB2 = *__SIMD32(pB2)++;",
           "",
           "            sum = __SMLAD(inA13, inB1, sum);",
           "            sum2 = __SMLAD(inA13, inB2, sum2);",
           "            sum3 = __SMLAD(inA23, inB1, sum3);",
           "            sum4 = __SMLAD(inA23, inB2, sum4);",
           "",
           "            inB1 = *__SIMD32(pB)++;",
           "            inB2 = *__SIMD32(pB2)++;",
           "",
           "            sum = __SMLAD(inA14, inB1, sum);",
           "            sum2 = __SMLAD(inA14, inB2, sum2);",
           "            sum3 = __SMLAD(inA24, inB1, sum3);",
           "            sum4 = __SMLAD(inA24, inB2, sum4);"]]),
      (is .weights "u2",
        [rows [
           "            inB1 = *__SIMD32(pB)++;",
           "            inB2 = *__SIMD32(pB2)++;",
           "",
           "            sum = __SMLAD(inA13, inB1, sum);",
           "            sum2 = __SMLAD(inA13, inB2, sum2);",
           "            sum3 = __SMLAD(inA23, inB1, sum3);",
           "            sum4 = __SMLAD(inA23, inB2, sum4);",
           "",
           "            inB1 = *__SIMD32(pB)++;",
           "            inB2 = *__SIMD32(pB2)++;",
           "",
           "            sum = __SMLAD(inA14, inB1, sum);",
           "            sum2 = __SMLAD(inA14, inB2, sum2);",
           "            sum3 = __SMLAD(inA24, inB1, sum3);",
           "            sum4 = __SMLAD(inA24, inB2, sum4);",
           "            ",
           "            inB1 = *__SIMD32(pB)++;",
           "            inB2 = *__SIMD32(pB2)++;",
           "",
           "            sum = __SMLAD(inA15, inB1, sum);",
           "            sum2 = __SMLAD(inA15, inB2, sum2);",
           "            sum3 = __SMLAD(inA25, inB1, sum3);",
           "            sum4 = __SMLAD(inA25, inB2, sum4);",
           "",
           "            inB1 = *__SIMD32(pB)++;",
           "            inB2 = *__SIMD32(pB2)++;",
           "",
           "            sum = __SMLAD(inA16, inB1, sum);",
           "            sum2 = __SMLAD(inA16, inB2, sum2);",
           "            sum3 = __SMLAD(inA26, inB1, sum3);",
           "            sum4 = __SMLAD(inA26, inB2, sum4);",
           "",
           "            inB1 = *__SIMD32(pB)++;",
           "            inB2 = *__SIMD32(pB2)++;",
           "",
           "            sum = __SMLAD(inA17, inB1, sum);",
           "            sum2 = __SMLAD(inA17, inB2, sum2);",
           "            sum3 = __SMLAD(inA27, inB1, sum3);",
           "            sum4 = __SMLAD(inA27, inB2, sum4);",
           "",
           "            inB1 = *__SIMD32(pB)++;",
           "            inB2 = *__SIMD32(pB2)++;",
           "",
           "            sum = __SMLAD(inA18, inB1, sum);",
           "            sum2 = __SMLAD(inA18, inB2, sum2);",
           "            sum3 = __SMLAD(inA28, inB1, sum3);",
           "            sum4 = __SMLAD(inA28, inB2, sum4);"]])],
   rows [
     "            colCnt--;",
     "        \x7d /* while over colCnt */"]]

/-- The weights that are left, one by one. This part is switched off. -/
def rest : List Node :=
  [rows ["#if 0"],
   byPrecision .weights
     [rows [
        "        colCnt = numCol_A & 0x3; // config.wt_data_t: u4 (4x uint8_t)"]]
     [rows [
        "        colCnt = numCol_A & 0x7;; // config.wt_data_t: u4 (8x uint4_t)"]]
     [rows [
        "        colCnt = numCol_A & 0xf; // config.wt_data_t: u2 (16x uint2_t)"]],
   choose
     [(is .weights "u4", [rows ["        int wt_per_byte = 2;"]]),
      (is .weights "u2", [rows ["        int wt_per_byte = 4;"]])],
   rows [
     "        while (colCnt)",
     "        \x7b",
     "            uint8_t inB1 = (uint8_t) *pB++;",
     "            uint8_t inA1;"],
   byPrecision .weights
     [rows ["            inA1 = (uint8_t)*pA++;"]]
     [rows [
        "            switch(wt_per_byte)",
        "            \x7b",
        "                case 2:",
        "                    inA1 = (uint8_t) __USAT(*pA, 4);",
        "                    break;",
        "                 case 1:",
        "                    inA1 = (uint8_t) __USAT(__ROR(*pA, 4), 4);",
        "                    pA++;",
        "                    break;",
        "            \x7d"]]
     [rows [
        "            switch(wt_per_byte)",
        "            \x7b",
        "                case 4:",
        "                    inA1 = (uint8_t) __USAT(*pA, 2);",
        "                    break;",
        "                case 3:",
        "                    inA1 = (uint8_t) __USAT(__ROR(*pA, 2), 2);",
        "                    break;",
        "                case 2:",
        "                    inA1 = (uint8_t) __USAT(__ROR(*pA, 2), 4);",
        "                    break;",
        "                case 1:",
        "                    inA1 = (uint8_t) __USAT(__ROR(*pA, 2), 6);",
        "                    pA++;",
        "                break;",
        "            \x7d"]],
   choose
     [(is .quantization "PACT", [rows ["            inA1 -= z_a;"]]),
      (is .quantization "PACT_CH", [rows ["            inA1 -= z_a[i];"]])],
   rows [
     "            sum += inA1 * inB1;",
     "            colCnt--;",
     "        \x7d",
     "#endif"]]

/-- Scales four sums to the output. -/
def normalize : List Node :=
  [choose
     [(is .folding "thr",
        [rows ["        /* Normalize by Thresholds ("],
         hole .output,
         .text " output) */",
         byPrecision .output
           [rows ["        #warning No threasholds available at u8"]]
           [rows [
              "        sum = __int16_to_u4((int16_t) sum, &thresholds[i<<4]);",
              "        sum2 = __int16_to_u4((int16_t) sum2, &thresholds[i<<4]);",
              "        sum3 = __int16_to_u4((int16_t) sum3, &thresholds[(i+1)<<4]);",
              "        sum4 = __int16_to_u4((int16_t) sum4, &thresholds[(i+1)<<4]);"]]
           [rows [
              "        sum = __int16_to_u2((int16_t) sum , &thresholds[(i++)<<2]);",
              "        sum2 = __int16_to_u2((int16_t) sum2, &thresholds[(i++)<<2]);",
              "        sum3 = __int16_to_u2((int16_t) sum3 , &thresholds[(i+1)<<2]);",
              "        sum4 = __int16_to_u2((int16_t) sum4 , &thresholds[(i+1)<<2]);"]]]),
      (is .folding "icn",
        [rows ["        /* Normalize by ICN ("],
         hole .output,
         lines [
           " output) */",
           "        __n_zero_negative_normalization(n_zero[i],&n_zero1,&n_zero2);",
           "        sum  = ((__HI_SMULL(sum << n_zero1 ,m_zero[i])) >> n_zero2) + z_out;",
           "        __n_zero_negative_normalization(n_zero[i],&n_zero1,&n_zero2);",
           "        sum2  = ((__HI_SMULL(sum2 << n_zero1 ,m_zero[i])) >> n_zero2) + z_out;",
           "        __n_zero_negative_normalization(n_zero[i+1],&n_zero1,&n_zero2);",
           "        sum3  = ((__HI_SMULL(sum3 << n_zero1 ,m_zero[i+1])) >> n_zero2) + z_out;",
           "        __n_zero_negative_normalization(n_zero[i+1],&n_zero1,&n_zero2);",
           "        sum4  = ((__HI_SMULL(sum4 << n_zero1 ,m_zero[i+1])) >> n_zero2) + z_out;"]]),
      (is .folding "weights",
        [rows ["        /* Normalize by PACT+FW ("],
         hole .output,
         lines [
           " output) */",
           "        sum  = ((__HI_SMULL(sum << n_zero1,m_zero)) >> n_zero2) + z_out;",
           "        sum2 = ((__HI_SMULL(sum2 << n_zero1,m_zero)) >> n_zero2) + z_out;",
           "        sum3 = ((__HI_SMULL(sum3 << n_zero1,m_zero)) >> n_zero2) + z_out;",
           "        sum4 = ((__HI_SMULL(sum4 << n_zero1,m_zero)) >> n_zero2) + z_out;"]])]]

/-- Packs four sums into the output. -/
def store : List Node :=
  [rows ["        /* Store Outputs ("],
   hole .output,
   .text " output) */",
   byPrecision .output
     [rows [
        "        *pOut++ = (uint8_t) __USAT(sum, 8);",
        "        *pOut++ = (uint8_t) __USAT(sum3, 8);",
        "        *pOut2++ = (uint8_t) __USAT(sum2, 8);",
        "        *pOut2++ = (uint8_t) __USAT(sum4, 8);"]]
     [rows [
        "        *pOut++  = ( __USAT(sum,4) | ((__USAT(sum3,4) << 4 ) & 0xF0 ));",
        "        *pOut2++ = ( __USAT(sum2,4) | ((__USAT(sum4,4) << 4 ) & 0xF0 ));"]]
     [rows [
        "        if(i & 0x0002 )\x7b //MSB or-ed with LSB, then increment the pointer",
        "            *pOut = (  ( __USAT(sum, 2)  << 4 ) & 0x30",
        "                     | ( __USAT(sum3, 2) << 6 ) & 0xC0 )",
        "                     | *pOut; pOut++;",
        "            *pOut2 = ( ( __USAT(sum2, 2) << 4 ) & 0x30",
        "                     | ( __USAT(sum4, 2) << 6 ) & 0xC0 )",
        "                     | *pOut2; pOut2++;",
        "        \x7d",
        "        else \x7b // writing LSB first and implicit cleaning of previous junk value",
        "            *pOut  = ( ( __USAT(sum, 2)         & 0x03 )",
        "                       | ( __USAT(sum3, 2) << 2 ) & 0x0C );",
        "            *pOut2 = ( ( __USAT(sum2, 2)        & 0x03 )",
        "                       | ( __USAT(sum4, 2) << 2 ) & 0x0C );",
        "        \x7d"]]]

/-- Skips the second row, which has been used. -/
def nextRows : List Node :=
  [rows ["        /* skip the row computed with A2 */"],
   byPrecision .weights
     [rows ["        pA += numCol_A;"]]
     [rows [
        "        pA += numCol_A>>1; // config.wt_data_t: u4 (2cols per-Bytes)"]]
     [rows [
        "        pA += numCol_A>>2; // config.wt_data_t: u2 (4cols per-Bytes)"]]]

/-- The end of the function. -/
def closing : List Node :=
  [byPrecision .output
     [rows ["    pOut += ch_im_out;"]]
     [rows [
        "    pOut += ch_im_out>>1; // config.out_data_t: u4 (2CH per-Bytes)"]]
     [rows [
        "    pOut += ch_im_out>>2; // config.out_data_t: u2 (4CHs per-Bytes)"]],
   rows [
     "#else",
     "    #error \"Cortex-M0 and Cortex-M3 not supported\"",
     "    /* Run the following code as reference implementation for Cortex-M0 and Cortex-M3 */",
     "#endif /* ARM_MATH_DSP */",
     "",
     "    /* return the new output pointer with offset */",
     "    return pOut;",
     "\x7d",
     ""]]

/-- The account, and what stands in front of the function. The header is not used. -/
def preamble : List Node :=
  account ++
  [rows [
     "",
     "#include \"arm_nnfunctions.h\"",
     "#include \"arm_math.h\"",
     "",
     "  /**"]] ++
  Signature.matMulNotes

/-- The body of the function. -/
def code : List Node :=
  [rows ["\x7b", ""]] ++
  setup ++
  [rows [
     "",
     "    /* this loop over rows in A */",
     "    for (i = 0; i < ch_im_out; i += 2)",
     "    \x7b"]] ++
  rowSetup ++
  blockCount ++
  [rows [""]] ++
  blocks ++
  [rows [""]] ++
  rest ++
  normalize ++
  [rows [""]] ++
  store ++
  [rows [""]] ++
  nextRows ++
  [rows ["    \x7d /* for over ch_im_out */"]] ++
  closing

/-- The account and the function. -/
def nodes : List Node := preamble ++ signature ++ code

end KernelGen.Standard.MatMul
