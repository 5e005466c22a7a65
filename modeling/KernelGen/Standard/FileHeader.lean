import KernelGen.Standard.Part
import KernelGen.Standard.Terms

/-! The comment at the top of a kernel's source. -/
namespace KernelGen.Standard.FileHeader

open Template

/-- The terms and a short account of the file. -/
def nodes : List Node :=
  Terms.terms ++
  [rows [
     "",
     "/*",
     " * Project:      CMixNN Inference Library",
     " * Title:        "],
   hole .fileName,
   rows [" * Description:  "],
   hole .description,
   rows [
     " *",
     " * Target Processor:",
     " *               Cortex-M cores",
     " *",
     " * $Date:        10 February 2020",
     " * $Revision:    Release v1.0.0",
     " *",
     " * $Authors:     Alessandro Capotondi <alessandro.capotondi AT unibo.it>",
     " *               Marco Fariselli      <marco.fariselli AT greenwaves-technologies.com>",
     " *               Manuele Rusci        <manuele.rusci AT unibo.it>",
     " */"]]

end KernelGen.Standard.FileHeader
