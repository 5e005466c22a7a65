import KernelGen.Standard.Signature

/-! The prototype of a kernel, which is collected into one of the two headers. -/
namespace KernelGen.Standard.Declaration

open Template

/-- How a convolution scales its output. -/
def scaleParameters : List Node :=
  [chooseElse
     [(is .folding "thr", [rows ["                        const int16_t * thresholds,"]]),
      (is .folding "icn",
        [rows [
           "                        const uint8_t z_out,",
           "                        const int32_t *m_zero,",
           "                        const int8_t *n_zero,"]])]
     [rows [
        "                        const uint8_t z_out,",
        "                        const int32_t m_zero,",
        "                        const int8_t n_zero,"]]]

/-- The parameters of convolutions of both kinds, and the end of the prototype. -/
def convolutionParameters : List Node :=
  [.text "(const uint8_t * Im_in,"] ++
  Signature.tensorParameters ++
  scaleParameters ++
  [rows [
     "                        int16_t * bufferA,",
     "                        uint8_t * bufferB);"]]

/-- The parameters of a matrix multiplication, and the end of the prototype. -/
def matMulParameters : List Node :=
  [lines [
     "(const uint8_t * pA,",
     "                        const int16_t * pInBuffer,",
     "                        const uint16_t ch_im_out,",
     "                        const uint16_t numCol_A,",
     "                        const int32_t * bias,",
     "                        uint8_t * pOut,"],
   choose
     [(is .quantization "PACT", [rows ["                        const uint8_t z_a,"]]),
      (is .quantization "PACT_CH", [rows ["                        const uint8_t *z_a,"]])],
   chooseElse
     [(is .folding "thr", [rows ["                        const int16_t * thresholds);"]]),
      (is .folding "icn",
        [rows [
           "                        const uint8_t z_out,",
           "                        const int32_t *m_zero,",
           "                        const int8_t *n_zero);"]])]
     [rows [
        "                        const uint8_t z_out,",
        "                        const int32_t m_zero,",
        "                        const int8_t n_zero);"]]]

/-- The parameters of a reordering, and the end of the prototype. -/
def reorderingParameters : List Node :=
  [lines [
     "(",
     "                        const uint8_t *pSrc,",
     "                        int16_t *pDst,",
     "                        uint32_t blockSize,",
     "                        const uint8_t offset);"]]

/-- A comment with notes, the type of the result, the name, and the parameters. -/
def prototype (opening : Node) (notes : List Node) (result : String) (parameters : List Node) :
    List Node :=
  [opening] ++ notes ++ [rows ["", result, ""], hole .functionName] ++ parameters

def convolution : List Node :=
  prototype (.text "  /**") Signature.convolutionNotes "arm_status" convolutionParameters

def matMul : List Node :=
  prototype (rows [" /**"]) Signature.matMulNotes "uint8_t *" matMulParameters

def depthwise : List Node :=
  prototype (rows ["/**"]) Signature.depthwiseNotes "arm_status" convolutionParameters

def reordering : List Node :=
  prototype (rows ["/**"]) Signature.reorderingNotes "void" reorderingParameters

/-- A prototype by the kind of the kernel. -/
def nodes : List Node :=
  [choose
     [(is .kind "convolve", convolution),
      (is .kind "mat_mul", matMul),
      (is .kind "depthwise", depthwise),
      (is .kind "convert_reorder", reordering)],
   rows [""]]

end KernelGen.Standard.Declaration
