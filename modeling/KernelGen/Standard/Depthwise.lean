import KernelGen.Standard.Signature
import KernelGen.Standard.Terms

/-! The source of a depthwise convolution. Each channel of the output depends on one channel of
the input, so that the products are added in place. -/
namespace KernelGen.Standard.Depthwise

open Template

/-- The terms of use and a short account of the file. -/
def account : List Node :=
  Terms.terms ++
  [rows [
     "",
     " /* ----------------------------------------------------------------------",
     " * Project:      CMSIS NN Library - Mixed Precision INT-Q",
     " * Title:        "],
   hole .fileName,
   rows [
     " * Description:  Mixed Precision Depthwise Convolutional function",
     " *               that uses "],
   hole .input,
   .text " activations, ",
   hole .weights,
   lines [" weights", " *               and produce "],
   hole .input,
   lines [
     " output activations.",
     " *               Outputs are quantized using "],
   hole .folding,
   lines [
     " folding technique.",
     " *",
     " * Target Processor:  Cortex-M cores",
     " * ",
     " * Modification: Mixed-Precision INT-Q extension",
     " *",
     " * $Date:        3 September 2019",
     " * $Revision:    V.1.2.0",
     " *",
     " * $Authors:     Alessandro Capotondi - alessandro.capotondi@unibo.it",
     " *               Marco Fariselli - marco.fariselli2@unibo.it ",
     " *               Manuele Rusci - manuele.rusci@unibo.it",
     " *               ",
     " * -------------------------------------------------------------------- */"]]

/-- What stands between the account and the function. -/
def opening : List Node :=
  [rows [
     "",
     "#include \"arm_math.h\"",
     "#include \"arm_nnfunctions.h\"",
     "",
     "/**",
     " *  @ingroup groupNN",
     " */",
     "",
     "/**",
     " * @addtogroup NNConv",
     " * @\x7b",
     " */",
     ""]]

/-- The parameters of the function. -/
def parameters : List Node :=
  [.text "(const uint8_t * Im_in,"] ++
  Signature.tensorParameters ++
  [chooseElse
     [(is .folding "thr", [rows ["                        const int16_t * thresholds,"]])]
     [rows ["                        const uint8_t z_out,"],
      chooseElse
        [(is .folding "icn",
           [rows [
              "                        const int32_t *m_zero,",
              "                        const int8_t *n_zero,"]])]
        [rows [
           "                        const int32_t m_zero,",
           "                        const int8_t n_zero,"]]],
   rows [
     "                        int16_t * bufferA,",
     "                        uint8_t * bufferB)"]]

/-- The head of the function. -/
def signature : List Node :=
  [rows ["", "arm_status", ""], hole .functionName] ++ parameters

/-- Local values, and the check of the channel numbers. -/
def setup : List Node :=
  [rows [
     "",
     "#if defined (ARM_MATH_DSP)",
     "    /* Run the following code for Cortex-M4 and Cortex-M7 */",
     "",
     "    int16_t   i_out_y, i_out_x;",
     "    int16_t   i_ker_y, i_ker_x;",
     "    uint8_t    *colBuffer = (uint8_t *) bufferA;",
     "    uint8_t    *pBuffer = colBuffer;",
     "    const int32_t *pBias = bias;",
     "    uint8_t   *pOut = Im_out;",
     "    uint16_t  rowCnt;",
     "    uint16_t  row_shift;"],
   choose
     [(is .quantization "PACT",
        [rows [
           "    int16_t Vz_wt[2] = \x7bz_wt,z_wt\x7d;",
           "    const int32_t *pz_wt = (int32_t *)Vz_wt;",
           "    int32_t inz_wt = *__SIMD32(pz_wt);"]])],
   rows [
     "",
     "    int16_t Vz_in[2] = \x7bz_in,z_in\x7d;",
     "    const int32_t *pz_in = (int32_t *) Vz_in;",
     "    int32_t inz_in = *__SIMD32(pz_in);"],
   choose
     [(is .folding "weights",
        [rows [
           "    /* Negative N_ZERO Normalization */",
           "    int8_t n_zero1;",
           "    int8_t n_zero2;",
           "    __n_zero_negative_normalization(n_zero,&n_zero1,&n_zero2);"]]),
      (is .folding "icn",
        [rows [
           "    /* Negative N_ZERO Normalization */",
           "    int8_t n_zero1;",
           "    int8_t n_zero2;"]])],
   rows [
     "",
     "    /* do some checking here, basically ch_im_in == ch_im_out */",
     "    if (ch_im_in != ch_im_out)",
     "    \x7b",
     "        return ARM_MATH_SIZE_MISMATCH;",
     "    \x7d"]]

/-- Copies a window of the input to the buffer, one value to a byte. -/
def window : List Node :=
  [rows [
     "            /* we first do im2col here */",
     "            for (i_ker_y = i_out_y * stride - top_padding; i_ker_y < i_out_y * stride - top_padding + dim_kernel; i_ker_y++)",
     "            \x7b",
     "                for (i_ker_x = i_out_x * stride - left_padding; i_ker_x < i_out_x * stride - left_padding + dim_kernel; i_ker_x++)",
     "                \x7b",
     "                    if (i_ker_y < 0 || i_ker_y >= dim_im_in || i_ker_x < 0 || i_ker_x >= dim_im_in)",
     "                    \x7b",
     "                        memset(pBuffer, 0, ch_im_in);",
     "                    \x7d",
     "                    else",
     "                    \x7b"],
   byPrecision .input
     [rows [
        "                        memcpy(pBuffer, Im_in + (i_ker_y * dim_im_in + i_ker_x) * ch_im_in, ch_im_in);"]]
     [rows [
        "                        /* Unpack Input uint4_t to uint8_t */",
        "                        const uint8_t *Im_in2 =  Im_in + (i_ker_y * (dim_im_in) + i_ker_x) * (ch_im_in>>1);",
        "                        for(int j=0, jj=0; j<ch_im_in>>1; j++)",
        "                        \x7b",
        "                            pBuffer[jj++] =  Im_in2[j]       & 0x0F;",
        "                            pBuffer[jj++] = (Im_in2[j] >> 4) & 0x0F;",
        "                        \x7d"]]
     [rows [
        "                        /* Unpack Input uint4_t to uint8_t */",
        "                        const uint8_t *Im_in2 =  Im_in + (i_ker_y * (dim_im_in) + i_ker_x) * (ch_im_in>>2);",
        "                        for(int j=0, jj=0; j<ch_im_in>>2; j++)",
        "                        \x7b",
        "                            pBuffer[jj++] =  Im_in2[j]       & 0x03;",
        "                            pBuffer[jj++] = (Im_in2[j] >> 2) & 0x03;",
        "                            pBuffer[jj++] = (Im_in2[j] >> 4) & 0x03;",
        "                            pBuffer[jj++] = (Im_in2[j] >> 6) & 0x03;",
        "                        \x7d"]],
   rows [
     "                    \x7d",
     "                    pBuffer += ch_im_in;",
     "                \x7d",
     "            \x7d"]]

/-- The offset of the second channel. -/
def offset1 : List Node :=
  [choose
     [(is .quantization "PACT_CH",
        [rows [
           "                    Vz_wt[0] = Vz_wt[1] = z_wt[ch_out_id+1];",
           "                    inz_wt = *__SIMD32(pz_wt);"]])]]

/-- The offset of the third channel. -/
def offset2 : List Node :=
  [choose
     [(is .quantization "PACT_CH",
        [rows [
           "                    Vz_wt[0] = Vz_wt[1] = z_wt[ch_out_id+2];",
           "                    inz_wt = *__SIMD32(pz_wt);"]])]]

/-- The offset of the fourth channel. -/
def offset3 : List Node :=
  [choose
     [(is .quantization "PACT_CH",
        [rows [
           "                    Vz_wt[0] = Vz_wt[1] = z_wt[ch_out_id+3];",
           "                    inz_wt = *__SIMD32(pz_wt);"]])]]

/-- Unpacks the weights of four channels and adds their products to the sums. -/
def weights : List Node :=
  [byPrecision .weights
     ([rows [
         "                    inA1 = *__SIMD32(pA);",
         "                    pA += ch_im_in;",
         "                    opB = *__SIMD32(pA);",
         "                    pA += ch_im_in;",
         "                    inA2 = __PKHTB(opB, inA1, 16);",
         "                    inA1 = __PKHBT(inA1, opB, 16);",
         "",
         "                    //sum",
         "                    opA = __UXTB16(inA1);",
         "                    opB = __UXTB16(inB1);",
         "",
         "                    opA = __SSUB16(opA, inz_wt);",
         "                    opB = __SSUB16(opB, inz_in);",
         "                    sum = __SMLAD(opA, opB, sum);",
         "",
         "                    //sum2",
         "                    opA = __UXTB16(__ROR(inA1, 8));",
         "                    opB = __UXTB16(__ROR(inB1, 8));"]] ++
      offset1 ++
      [rows [
         "                    opA = __SSUB16(opA, inz_wt);",
         "                    opB = __SSUB16(opB, inz_in);",
         "                    sum2 = __SMLAD(opA, opB, sum2);",
         "",
         "                    //sum3",
         "                    opA = __UXTB16(inA2);",
         "                    opB = __UXTB16(inB2);"]] ++
      offset2 ++
      [rows [
         "                    opA = __SSUB16(opA, inz_wt);",
         "                    opB = __SSUB16(opB, inz_in);",
         "                    sum3 = __SMLAD(opA, opB, sum3);",
         "",
         "                    //sum4",
         "                    opA = __UXTB16(__ROR(inA2, 8));",
         "                    opB = __UXTB16(__ROR(inB2, 8));"]] ++
      offset3 ++
      [rows [
         "                    opA = __SSUB16(opA, inz_wt);",
         "                    opB = __SSUB16(opB, inz_in);",
         "                    sum4 = __SMLAD(opA, opB, sum4);"]])
     ([rows [
         "                    uint32_t tmp_inA1  = (uint32_t) *((uint16_t *)pA); //ch 0, ch1 | ch2, ch3",
         "                    pA+=ch_im_in>>1;",
         "                    uint32_t tmp_inA2 = (uint32_t) *((uint16_t *)pA); //ch 0', ch1' | ch2', ch3'",
         "                    pA+=ch_im_in>>1;",
         "",
         "                    inA1 = __USAT(tmp_inA1, 4) | (__USAT(tmp_inA2, 4) << 16);",
         "                    inA2 = __USAT(__ROR(tmp_inA1, 4), 4) | (__USAT(__ROR(tmp_inA2, 4), 4) << 16);",
         "                    inA3 = __USAT(__ROR(tmp_inA1, 8), 4) | (__USAT(__ROR(tmp_inA2, 8), 4) << 16);",
         "                    inA4 = __USAT(__ROR(tmp_inA1, 12), 4) | (__USAT(__ROR(tmp_inA2, 12), 4) << 16);",
         "",
         "                    //sum",
         "                    opA = __UXTB16(inA1);",
         "                    opB = __UXTB16(inB1);",
         "",
         "                    opA = __SSUB16(opA, inz_wt);",
         "                    opB = __SSUB16(opB, inz_in);",
         "                    sum = __SMLAD(opA, opB, sum);",
         "",
         "                    //sum2",
         "                    opA = __UXTB16(inA2);",
         "                    opB = __UXTB16(__ROR(inB1, 8));"]] ++
      offset1 ++
      [rows [
         "                    opA = __SSUB16(opA, inz_wt);",
         "                    opB = __SSUB16(opB, inz_in);",
         "                    sum2 = __SMLAD(opA, opB, sum2);",
         "",
         "                    //sum3",
         "                    opA = __UXTB16(inA3);",
         "                    opB = __UXTB16(inB2);"]] ++
      offset2 ++
      [rows [
         "                    opA = __SSUB16(opA, inz_wt);",
         "                    opB = __SSUB16(opB, inz_in);",
         "                    sum3 = __SMLAD(opA, opB, sum3);",
         "",
         "                    //sum4",
         "                    opA = __UXTB16(inA4);",
         "                    opB = __UXTB16(__ROR(inB2, 8));"]] ++
      offset3 ++
      [rows [
         "                    opA = __SSUB16(opA, inz_wt);",
         "                    opB = __SSUB16(opB, inz_in);",
         "                    sum4 = __SMLAD(opA, opB, sum4);"]])
     ([rows [
         "                    uint32_t tmp_inA1  = (uint32_t) *pA; //ch 0, ch1, ch2, ch3 | ...",
         "                    pA+=ch_im_in>>2;",
         "                    uint32_t tmp_inA2 = (uint32_t) *pA; //ch 0', ch1', ch2', ch3' | ...",
         "                    pA+=ch_im_in>>2;",
         "",
         "                    inA1 = __USAT(tmp_inA1, 2) | (__USAT(tmp_inA2, 2) << 16);",
         "                    inA2 = __USAT(__ROR(tmp_inA1, 2), 2) | (__USAT(__ROR(tmp_inA2, 2), 2) << 16);",
         "                    inA3 = __USAT(__ROR(tmp_inA1, 4), 2) | (__USAT(__ROR(tmp_inA2, 4), 2) << 16);",
         "                    inA4 = __USAT(__ROR(tmp_inA1, 6), 2) | (__USAT(__ROR(tmp_inA2, 6), 2) << 16);",
         "",
         "                    //sum",
         "                    opA = __UXTB16(inA1);",
         "                    opB = __UXTB16(inB1);",
         "",
         "                    opA = __SSUB16(opA, inz_wt);",
         "                    opB = __SSUB16(opB, inz_in);",
         "                    sum = __SMLAD(opA, opB, sum);",
         "",
         "                    //sum2",
         "                    opA = __UXTB16(inA2);",
         "                    opB = __UXTB16(__ROR(inB1, 8));"]] ++
      offset1 ++
      [rows [
         "                    opA = __SSUB16(opA, inz_wt);",
         "                    opB = __SSUB16(opB, inz_in);",
         "                    sum2 = __SMLAD(opA, opB, sum2);",
         "",
         "                    //sum3",
         "                    opA = __UXTB16(inA3);",
         "                    opB = __UXTB16(inB2);"]] ++
      offset2 ++
      [rows [
         "                    opA = __SSUB16(opA, inz_wt);",
         "                    opB = __SSUB16(opB, inz_in);",
         "                    sum3 = __SMLAD(opA, opB, sum3);",
         "",
         "                    //sum4",
         "                    opA = __UXTB16(inA4);",
         "                    opB = __UXTB16(__ROR(inB2, 8));"]] ++
      offset3 ++
      [rows [
         "                    opA = __SSUB16(opA, inz_wt);",
         "                    opB = __SSUB16(opB, inz_in);",
         "                    sum4 = __SMLAD(opA, opB, sum4);"]])]

/-- Two rows of the window at a time. The shift halves the number of rows. -/
def pairs : List Node :=
  [rows [
     "                uint16_t    colCnt = (dim_kernel * dim_kernel) >> 1;",
     "                uint8_t     *pB = colBuffer + row_shift;",
     "                const uint8_t *pA = wt + row_shift;",
     "",
     "#ifndef ARM_MATH_BIG_ENDIAN",
     "",
     "                while (colCnt)",
     "                \x7b"],
   choose
     [(is .quantization "PACT_CH",
        [rows [
           "                    int16_t Vz_wt[2] = \x7bz_wt[ch_out_id],z_wt[ch_out_id]\x7d;",
           "                    const int32_t *pz_wt = (int32_t *)Vz_wt;",
           "                    int32_t inz_wt = *__SIMD32(pz_wt);"]])],
   rows [
     "                    int32_t     inA1, inA2, inB1, inB2, opA, opB;"],
   choose
     [(isNot .weights "u8", [rows ["                    int32_t     inA3, inA4;"]])],
   rows [
     "",
     "                    inB1 = *__SIMD32(pB);",
     "                    pB += ch_im_in;",
     "                    opB = *__SIMD32(pB);",
     "                    pB += ch_im_in;",
     "                    inB2 = __PKHTB(opB, inB1, 16);",
     "                    inB1 = __PKHBT(inB1, opB, 16);"]] ++
  weights ++
  [rows ["                    colCnt--;"]]

/-- The last row of the window, if the number of rows is odd. -/
def lastRow : List Node :=
  [rows [
     "                colCnt = (dim_kernel * dim_kernel) & 0x1;",
     "                while (colCnt)",
     "                \x7b",
     "                    union arm_nnword inA, inB;"],
   byPrecision .weights
     [rows [
        "                    inA.word = *__SIMD32(pA);",
        "                    pA += ch_im_in;"]]
     [rows [
        "                    uint32_t tmp_inA = (uint32_t) *((uint16_t *)pA); //ch 0', ch1' | ch2', ch3'",
        "                    pA += ch_im_in>>1;",
        "                    inA.bytes[0] = (uint8_t) __USAT(tmp_inA, 4);",
        "                    inA.bytes[1] = (uint8_t) __USAT(__ROR(tmp_inA, 4), 4);",
        "                    inA.bytes[2] = (uint8_t) __USAT(__ROR(tmp_inA, 8), 4);",
        "                    inA.bytes[3] = (uint8_t) __USAT(__ROR(tmp_inA, 12), 4);"]]
     [rows [
        "                   uint32_t tmp_inA = (uint32_t) *pA; //ch 0', ch1' | ch2', ch3'",
        "                    pA += ch_im_in>>2;",
        "                    inA.bytes[0] = (uint8_t) __USAT(tmp_inA, 2);",
        "                    inA.bytes[1] = (uint8_t) __USAT(__ROR(tmp_inA, 2), 2);",
        "                    inA.bytes[2] = (uint8_t) __USAT(__ROR(tmp_inA, 4), 2);",
        "                    inA.bytes[3] = (uint8_t) __USAT(__ROR(tmp_inA, 6), 2);"]],
   rows [
     "                    inB.word = *__SIMD32(pB);",
     "                    pB += ch_im_in;"],
   chooseElse
     [(is .quantization "PACT_CH",
        [rows [
           "                    sum  += (((uint8_t) inA.bytes[0])-z_wt[ch_out_id]) * (((uint8_t) inB.bytes[0])-z_in);",
           "                    sum2 += (((uint8_t) inA.bytes[1])-z_wt[ch_out_id+1]) * (((uint8_t) inB.bytes[1])-z_in);",
           "                    sum3 += (((uint8_t) inA.bytes[2])-z_wt[ch_out_id+2]) * (((uint8_t) inB.bytes[2])-z_in);",
           "                    sum4 += (((uint8_t) inA.bytes[3])-z_wt[ch_out_id+3]) * (((uint8_t) inB.bytes[3])-z_in);"]])]
     [rows [
        "                    sum  += (((uint8_t) inA.bytes[0])-z_wt) * (((uint8_t) inB.bytes[0])-z_in);",
        "                    sum2 += (((uint8_t) inA.bytes[1])-z_wt) * (((uint8_t) inB.bytes[1])-z_in);",
        "                    sum3 += (((uint8_t) inA.bytes[2])-z_wt) * (((uint8_t) inB.bytes[2])-z_in);",
        "                    sum4 += (((uint8_t) inA.bytes[3])-z_wt) * (((uint8_t) inB.bytes[3])-z_in);"]],
   rows ["                    colCnt--;", "                \x7d"]]

/-- Scales four sums to the output. -/
def normalize : List Node :=
  [choose
     [(is .folding "thr",
        [rows ["                /* Normalize by Thresholds ("],
         hole .output,
         .text " output) */",
         byPrecision .output
           [rows ["                #warning No threasholds available at u8"]]
           [rows [
              "                sum = __int16_to_u4((int16_t) sum, &thresholds[(ch_out_id++)<<4]);",
              "                sum2 = __int16_to_u4((int16_t) sum2, &thresholds[(ch_out_id++)<<4]);",
              "                sum3 = __int16_to_u4((int16_t) sum3, &thresholds[(ch_out_id++)<<4]);",
              "                sum4 = __int16_to_u4((int16_t) sum4, &thresholds[(ch_out_id++)<<4]);"]]
           [rows [
              "                sum = __int16_to_u2((int16_t) sum , &thresholds[(ch_out_id++)<<2]);",
              "                sum2 = __int16_to_u2((int16_t) sum2, &thresholds[(ch_out_id++)<<2]);",
              "                sum3 = __int16_to_u2((int16_t) sum3 , &thresholds[(ch_out_id++)<<2]);",
              "                sum4 = __int16_to_u2((int16_t) sum4 , &thresholds[(ch_out_id++)<<2]);"]]]),
      (is .folding "icn",
        [rows ["                /* Normalize by ICN ("],
         hole .output,
         lines [
           " output) */",
           "                __n_zero_negative_normalization(n_zero[ch_out_id],&n_zero1,&n_zero2);",
           "                sum  = ((__HI_SMULL(sum << n_zero1 ,m_zero[ch_out_id++])) >> n_zero2) + z_out;",
           "                __n_zero_negative_normalization(n_zero[ch_out_id],&n_zero1,&n_zero2);",
           "                sum2  = ((__HI_SMULL(sum2 << n_zero1 ,m_zero[ch_out_id++])) >> n_zero2) + z_out;",
           "                __n_zero_negative_normalization(n_zero[ch_out_id],&n_zero1,&n_zero2);",
           "                sum3  = ((__HI_SMULL(sum3 << n_zero1 ,m_zero[ch_out_id++])) >> n_zero2) + z_out;",
           "                __n_zero_negative_normalization(n_zero[ch_out_id],&n_zero1,&n_zero2);",
           "                sum4  = ((__HI_SMULL(sum4 << n_zero1 ,m_zero[ch_out_id++])) >> n_zero2) + z_out;"]]),
      (is .folding "weights",
        [rows ["                /* Normalize by PACT+FW ("],
         hole .output,
         lines [
           " output) */",
           "                sum  = ((__HI_SMULL(sum << n_zero1,m_zero)) >> n_zero2) + z_out;",
           "                sum2 = ((__HI_SMULL(sum2 << n_zero1,m_zero)) >> n_zero2) + z_out;",
           "                sum3 = ((__HI_SMULL(sum3 << n_zero1,m_zero)) >> n_zero2) + z_out;",
           "                sum4 = ((__HI_SMULL(sum4 << n_zero1,m_zero)) >> n_zero2) + z_out;"]])]]

/-- Packs four sums into the output. -/
def store : List Node :=
  [rows ["                /* Store Outputs ("],
   hole .output,
   .text " output) */",
   byPrecision .output
     [rows [
        "                *pOut++ = (uint8_t) __USAT(sum, 8);",
        "                *pOut++ = (uint8_t) __USAT(sum2, 8);",
        "                *pOut++ = (uint8_t) __USAT(sum3, 8);",
        "                *pOut++ = (uint8_t) __USAT(sum4, 8);"]]
     [rows [
        "                *pOut++ = ( __USAT(sum, 4) ) | ( __USAT(sum2, 4) << 4 );",
        "                *pOut++ = ( __USAT(sum3, 4)) | ( __USAT(sum4, 4) << 4 );"]]
     [rows [
        "                *pOut++ = ( __USAT(sum,2)) | ( __USAT(sum2,2) << 2 ) | ( __USAT(sum3,2) << 4 ) | ( __USAT(sum4,2) << 6 );"]]]

/-- Four channels at a time. -/
def blocks : List Node :=
  [rows [
     "            /* we will do the computation here for each channel */",
     "            rowCnt = ch_im_out >> 2;",
     "            row_shift = 0;",
     "            pBias = bias;"],
   choose
     [(either (is .quantization "PACT_CH") (isNot .folding "weights"),
        [rows ["            int32_t ch_out_id=0;"]])],
   rows [
     "",
     "            while (rowCnt)",
     "            \x7b",
     "                int32_t     sum =  *pBias++;",
     "                int32_t     sum2 = *pBias++;",
     "                int32_t     sum3 = *pBias++;",
     "                int32_t     sum4 = *pBias++;",
     ""]] ++
  pairs ++
  [rows [
     "                \x7d",
     "#else",
     "#error Missing Big Endian Implementation",
     "#endif /* ARM_MATH_BIG_ENDIAN */",
     ""]] ++
  lastRow ++
  normalize ++
  [rows [""]] ++
  store ++
  [byPrecision .weights
     [rows ["                row_shift += 4;"]]
     [rows ["                row_shift += 2;"]]
     [rows ["                row_shift += 1;"]],
   rows ["                rowCnt--;", "            \x7d"]]

/-- Scales a sum to the output. -/
def normalizeOne : List Node :=
  [choose
     [(is .folding "thr",
        [rows ["                /* Normalize by Thresholds ("],
         hole .output,
         .text " output) */",
         byPrecision .output
           [rows ["                #warning No threasholds available at u8"]]
           [rows [
              "                sum = __int16_to_u4((int16_t) sum, &thresholds[(ch_out_id++)<<4]);"]]
           [rows [
              "                sum = __int16_to_u2((int16_t) sum , &thresholds[(ch_out_id++)<<2]);"]]]),
      (is .folding "icn",
        [rows ["                /* Normalize by ICN ("],
         hole .output,
         lines [
           " output) */",
           "                __n_zero_negative_normalization(n_zero[ch_out_id],&n_zero1,&n_zero2);",
           "                sum  = ((__HI_SMULL(sum << n_zero1 ,m_zero[ch_out_id++])) >> n_zero2) + z_out;"]]),
      (is .folding "weights",
        [rows ["                /* Normalize by PACT+FW ("],
         hole .output,
         lines [
           " output) */",
           "                sum  = ((__HI_SMULL(sum << n_zero1,m_zero)) >> n_zero2) + z_out;"]])]]

/-- Packs a sum into the output. -/
def storeOne : List Node :=
  [rows ["                /* Store Outputs ("],
   hole .output,
   .text " output) */",
   byPrecision .output
     [rows ["                *pOut++ = (uint8_t) __USAT(sum, 8);"]]
     [rows [
        "                switch(row_per_byte_out)\x7b",
        "                    case 2:",
        "                        *pOut  = ( __USAT(sum, 4) );",
        "                        row_per_byte_out--;",
        "                        break;",
        "                    case 1:",
        "                        *pOut++ |= ( __USAT(sum, 4) << 4 );",
        "                        row_per_byte_out=2;",
        "                        break;",
        "                \x7d"]]
     [rows [
        "                switch(row_per_byte_out)\x7b",
        "                    case 4:",
        "                        *pOut  = ( __USAT(sum, 2) );",
        "                        row_per_byte_out--;",
        "                        break;",
        "                    case 3:",
        "                        *pOut |= ( __USAT(sum, 2) << 2);",
        "                        row_per_byte_out--;",
        "                        break;",
        "                    case 2:",
        "                        *pOut |= ( __USAT(sum, 2) << 4);",
        "                        row_per_byte_out--;",
        "                        break;",
        "                    case 1:",
        "                        *pOut++ |= ( __USAT(sum, 2) << 6);",
        "                        row_per_byte_out-=4;",
        "                        break;",
        "                \x7d"]]]

/-- The channels that are left, one by one. -/
def rest : List Node :=
  [choose
     [(is .weights "u4",
        [rows [
           "            int row_per_byte = 2;",
           "            int row_shift_wt = row_shift;"]]),
      (is .weights "u2",
        [rows [
           "            int row_per_byte = 4;",
           "            int row_shift_wt = row_shift;"]])],
   choose
     [(is .output "u4", [rows ["            int row_per_byte_out = 2;"]]),
      (is .output "u2", [rows ["            int row_per_byte_out = 4;"]])],
   rows [
     "            rowCnt = ch_im_out & 0x3;",
     "            while (rowCnt)",
     "            \x7b",
     "                uint8_t     *pB = colBuffer + row_shift;",
     "                int32_t     sum = *pBias++;",
     "                uint16_t  colCnt = (dim_kernel * dim_kernel);"],
   byPrecision .weights
     [rows [
        "                const uint8_t *pA = wt + row_shift;",
        "                row_shift += 1;"]]
     [rows ["                const uint8_t *pA = wt + row_shift_wt;"]]
     [rows ["                const uint8_t *pA = wt + row_shift_wt;"]],
   rows [
     "",
     "                while (colCnt)",
     "                \x7b",
     "                    uint8_t B1 = *pB;"],
   byPrecision .weights
     [rows [
        "                    uint8_t A1 = (uint8_t) __USAT(*pA, 8);",
        "                    pA += ch_im_in;"]]
     [rows [
        "                    uint8_t A1;",
        "                    switch(row_per_byte)",
        "                    \x7b",
        "                        case 2:",
        "                            A1 = (uint8_t) __USAT(*pA, 4);",
        "                            break;",
        "                        case 1:",
        "                            A1 = (uint8_t) __USAT(__ROR(*pA, 4), 4);",
        "                            break;",
        "                    \x7d",
        "                    pA += ch_im_in>>1;"]]
     [rows [
        "                    uint8_t A1;",
        "                    switch(row_per_byte)",
        "                    \x7b",
        "                        case 4:",
        "                            A1 = (uint8_t) __USAT(*pA, 2);",
        "                            break;",
        "                        case 3:",
        "                            A1 = (uint8_t) __USAT(__ROR(*pA, 2), 2);",
        "                            break;",
        "                        case 2:",
        "                            A1 = (uint8_t) __USAT(__ROR(*pA, 2), 4);",
        "                            break;",
        "                        case 1:",
        "                            A1 = (uint8_t) __USAT(__ROR(*pA, 2), 6);",
        "                            break;",
        "                    \x7d",
        "                    pA += ch_im_in>>1;"]],
   rows ["                    pB += ch_im_in;"],
   chooseElse
     [(is .quantization "PACT", [rows ["                    A1 -= z_wt;"]])]
     [rows ["                    A1 -= z_wt[ch_out_id];"]],
   rows [
     "                    B1 -= z_in;",
     "                    sum += A1 * B1;",
     "",
     "                    colCnt--;",
     "                \x7d"]] ++
  normalizeOne ++
  [rows [""]] ++
  storeOne ++
  [rows ["                rowCnt--;"],
   choose
     [(is .weights "u4",
        [rows [
           "                row_per_byte--;",
           "                if(!row_per_byte)\x7b",
           "                    row_per_byte=2;",
           "                    row_shift_wt++;",
           "                \x7d"]]),
      (is .weights "u2",
        [rows [
           "                row_per_byte--;",
           "                if(!row_per_byte)\x7b",
           "                    row_per_byte=4;",
           "                    row_shift_wt++;",
           "                \x7d"]])],
   rows ["            \x7d"]]

/-- The end of the function. -/
def closing : List Node :=
  [rows [
     "#else",
     "    #error \"Cortex-M0 and Cortex-M3 not supported\"",
     "    /* Run the following code as reference implementation for Cortex-M0 and Cortex-M3 */",
     "#endif                          /* ARM_MATH_DSP */",
     "",
     "    /* Return to application */",
     "    return ARM_MATH_SUCCESS;",
     "",
     "\x7d",
     "",
     "/**",
     " * @\x7d end of NNConv group",
     " */",
     ""]]

/-- The account, and what stands in front of the function. The header is not used. -/
def preamble : List Node :=
  account ++
  opening ++
  [rows [" /**"]] ++
  Signature.depthwiseNotes

/-- The body of the function. -/
def code : List Node :=
  [rows ["\x7b"]] ++
  setup ++
  [rows [
     "",
     "    for (i_out_y = 0; i_out_y < dim_im_out; i_out_y++)",
     "    \x7b",
     "        for (i_out_x = 0; i_out_x < dim_im_out; i_out_x++)",
     "        \x7b"]] ++
  window ++
  [rows [""]] ++
  blocks ++
  rest ++
  [rows [
     "            /* clear counter and pointers */",
     "            pBuffer = colBuffer;",
     "        \x7d",
     "    \x7d"]] ++
  closing

/-- The account and the function. -/
def nodes : List Node := preamble ++ signature ++ code

end KernelGen.Standard.Depthwise
