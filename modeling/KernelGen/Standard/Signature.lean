import KernelGen.Standard.Part

/-! Notes and parameters that stand both in a prototype and in the source it belongs to. -/
namespace KernelGen.Standard.Signature

open Template

/-- The parameters that convolutions of both kinds start with. -/
def tensorNotes : List Node :=
  [rows [
     "   * @param[in]       Im_in       pointer to input tensor",
     "   * @param[in]       dim_im_in   input tensor dimension",
     "   * @param[in]       ch_im_in    number of input tensor channels",
     "   * @param[in]       wt          pointer to kernel weights",
     "   * @param[in]       ch_im_out   number of filters, i.e., output tensor channels",
     "   * @param[in]       dim_kernel  filter kernel size",
     "   * @param[in]       left_pad    padding sizes",
     "   * @param[in]       right_pad   padding sizes",
     "   * @param[in]       top_pad     padding sizes",
     "   * @param[in]       bottom_pad  padding sizes",
     "   * @param[in]       stride      convolution stride",
     "   * @param[in]       bias        pointer to bias",
     "   * @param[in,out]   Im_out      pointer to output tensor",
     "   * @param[in]       dim_im_out  output tensor dimension",
     "   * @param[in]       z_in        input offset"]]

/-- One offset for all weights, or one for each output channel. -/
def weightsOffsetNote : List Node :=
  [choose
     [(is .quantization "PACT", [rows ["   * @param[in]       z_wt        weights offset"]]),
      (is .quantization "PACT_CH",
        [rows [
           "   * @param[in]       *z_wt       weights offset, per-output channel"]])]]

/-- How a convolution scales its output. -/
def convolutionScaleNotes : List Node :=
  [chooseElse
     [(is .folding "thr", [rows ["   * @param[in]       thresholds  pointer to thresholds"]]),
      (is .folding "icn",
        [rows [
           "   * @param[in]       z_out       output offset",
           "   * @param[in]       *m_zero     pointer to m zero quantization params (per-output-ch)",
           "   * @param[in]       *n_zero     pointer to n zero quantization params (per-output-ch)"]])]
     [rows [
        "   * @param[in]       z_out       output offset",
        "   * @param[in]       m_zero      m zero quantization param",
        "   * @param[in]       n_zero      n zero quantization param"]]]

/-- The parameters that convolutions of both kinds end with, and the result. -/
def closingNotes : List Node :=
  [rows [
     "   * @param[in,out]   bufferA     pointer to buffer space for input",
     "   * @param[in,out]   bufferB     pointer to buffer space for output",
     "   * @return     The function returns either",
     "   * <code>ARM_MATH_SIZE_MISMATCH</code> or <code>ARM_MATH_SUCCESS</code> based on the outcome of size checking.",
     "   */"]]

/-- What a convolution does, and its parameters. -/
def convolutionNotes : List Node :=
  [rows ["   * @brief Mixed Precision Convolution "],
   hole .folding,
   .text " (in: ",
   hole .input,
   .text ", out: ",
   hole .output,
   .text ", wt: ",
   hole .weights,
   lines [")", "   *"]] ++
  tensorNotes ++
  weightsOffsetNote ++
  convolutionScaleNotes ++
  closingNotes

/-- The parameters of convolutions of both kinds, up to the offset of the weights. -/
def tensorParameters : List Node :=
  [rows [
     "                        const uint16_t dim_im_in,",
     "                        const uint16_t ch_im_in,",
     "                        const uint8_t * wt,",
     "                        const uint16_t ch_im_out,",
     "                        const uint16_t dim_kernel,",
     "                        const uint8_t left_padding,",
     "                        const uint8_t right_padding,",
     "                        const uint8_t top_padding,",
     "                        const uint8_t bottom_padding,",
     "                        const uint16_t stride,",
     "                        const int32_t * bias,",
     "                        uint8_t * Im_out,",
     "                        const uint16_t dim_im_out,",
     "                        const uint8_t z_in,"],
   choose
     [(is .quantization "PACT", [rows ["                        const uint8_t z_wt,"]]),
      (is .quantization "PACT_CH", [rows ["                        const uint8_t *z_wt,"]])]]

/-- What a matrix multiplication does, and its parameters. -/
def matMulNotes : List Node :=
  [rows ["   * @brief Matrix-Multiplication function for "],
   hole .weights,
   lines [
     " x int16_t convolution with reordered columns.",
     "   *        Output is then quantized to "],
   hole .output,
   .text " using ",
   hole .folding,
   lines [
     " config.folding technique.",
     "   * @param[in]       pA          pointer to operand A",
     "   * @param[in]       pInBuffer   pointer to operand B, always consists of 2 vectors",
     "   * @param[in]       ch_im_out   numRow of A",
     "   * @param[in]       numCol_A    numCol of A",
     "   * @param[in]       bias        the bias",
     "   * @param[in,out]   pOut        pointer to output",
     "   * @param[in]       z_a         A operand offset"],
   choose
     [(is .quantization "PACT", [rows ["   * @param[in]       z_a         A operand offset"]]),
      (is .quantization "PACT_CH",
        [rows [
           "   * @param[in]       *z_a        pointer to A operand offsets (per-output channel)"]])],
   chooseElse
     [(is .folding "thr",
        [rows [
           "   * @param[in]       thresholds  pointer to thresholds for quantization"]]),
      (is .folding "icn",
        [rows [
           "   * @param[in]       z_out       output offset",
           "   * @param[in]       m_zero      pointer to m zero quantization params (per-output-ch)",
           "   * @param[in]       n_zero      pointer to n zero quantization params (per-output-ch)"]])]
     [rows [
        "   * @param[in]       z_out       output offset",
        "   * @param[in]       m_zero      m zero quantization param",
        "   * @param[in]       n_zero      n zero quantization param"]],
   rows [
     "   * @return     The function returns the incremented output pointer",
     "   *",
     "   * @details",
     "   *",
     "   * This function assumes that data in pInBuffer are reordered",
     "   */"]]

/-- What a depthwise convolution does, and its parameters. -/
def depthwiseNotes : List Node :=
  [rows [
     "   * @brief Mixed Precision Depthwise Convolutional function that uses "],
   hole .input,
   .text " activations, ",
   hole .weights,
   lines [" weights", "   *        and produce "],
   hole .input,
   .text " output activations. Outputs are quantized using ",
   hole .folding,
   lines [" folding technique.", "   *"]] ++
  tensorNotes ++
  weightsOffsetNote ++
  [chooseElse
     [(is .folding "thr", [rows ["   * @param[in]       thresholds  pointer to thresholds"]]),
      (is .folding "icn",
        [rows [
           "   * @param[in]       z_out       output offset",
           "   * @param[in]       m_zero      pointer to m zero quantization params (per-output-ch)",
           "   * @param[in]       n_zero      pointer to n zero quantization params (per-output-ch)"]])]
     [rows [
        "   * @param[in]       z_out       output offset",
        "   * @param[in]       m_zero      m zero quantization param",
        "   * @param[in]       n_zero      n zero quantization param"]]] ++
  closingNotes

/-- What a reordering does, and its parameters. -/
def reorderingNotes : List Node :=
  [rows [" * @brief Converts the elements of "],
   hole .input,
   lines [" vector to", " *        a reordered "],
   hole .output,
   lines [
     " vector (without left-shift).",
     " * @param[in] *pSrc       points to the "],
   hole .input,
   lines [" input vector", " * @param[out] *pDst      points to the "],
   hole .output,
   lines [
     " output vector",
     " * @param[in] blockSize   length of the input vector",
     " * @param[in] offset      input quantization offset",
     " * @return none.",
     " */"]]

end KernelGen.Standard.Signature
