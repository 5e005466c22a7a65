import KernelGen.Standard.Part

/-! The header that declares the kernels. -/
namespace KernelGen.Standard.PublicApi

open Template

/-- The terms of use and a short account of the file. -/
def account : List Node :=
  [lines [
     "/* Copyright (C) 2020 University of Bologna",
     " *",
     " * SPDX-License-Identifier: Apache-2.0",
     " *",
     " * Licensed under the Apache License, Version 2.0 (the License); you may",
     " * not use this file except in compliance with the License.",
     " * You may obtain a copy of the License at",
     " *",
     " * www.apache.org/licenses/LICENSE-2.0",
     " *",
     " * Unless required by applicable law or agreed to in writing, software",
     " * distributed under the License is distributed on an AS IS BASIS, WITHOUT",
     " * WARRANTIES OR CONDITIONS OF ANY KIND, either express or implied.",
     " * See the License for the specific language governing permissions and",
     " * limitations under the License.",
     " */",
     "",
     " /******************************************************************",
     " * Project:      CMixNN Inference Library",
     " * Title:        arm_cmixnn.h",
     " * Description:  Public header file for CMix-NN Library.",
     " * ",
     " * Target:       ARM Cortex-M cores",
     " *",
     " * $Date:        10 February 2020",
     " * $Revision:    Release v1.0.0",
     " *",
     " * $Authors:     Alessandro Capotondi",
     " *                <alessandro.capotondi AT unibo.it>",
     " *               Marco Fariselli",
     " *                <marco.fariselli AT greenwaves-technologies.com>",
     " *               Manuele Rusci ",
     " *                <manuele.rusci AT unibo.it>",
     " *",
     " ******************************************************************/",
     "",
     "/**",
     "   \\mainpage CMIX-NN Software Library",
     "   * ",
     "   * To Be Completed",
     "   * ",
     "   */"]]

/-- The account and the declarations. -/
def nodes : List Node :=
  account ++
  [rows [
     "",
     "/**",
     " * @defgroup CMIXNN CMix-NN Neural Network Functions",
     " * ",
     " * To Be Completed",
     " * ",
     " */",
     "",
     "#ifndef _ARM_CMIXNN_H",
     "#define _ARM_CMIXNN_H",
     "",
     "#include \"arm_cmixnn_support.h\"",
     "",
     "#define USE_INTRINSIC",
     "",
     "#ifdef __cplusplus",
     "extern    \"C\"",
     "\x7b",
     "#endif",
     "",
     "/**",
     " * @defgroup CMIXConv CMix-NN Convolution Functions",
     " * ",
     " * To be completed.",
     " * ",
     " */",
     ""],
   .output (.of (.var "api")),
   rows [
     "",
     "#ifdef __cplusplus",
     "\x7d",
     "#endif",
     "",
     "/*",
     " * Other functions",
     " * To be completed.",
     " */",
     "",
     "#ifdef __cplusplus",
     "extern    \"C\"",
     "\x7b",
     "#endif",
     "",
     "/**",
     " * @defgroup CMIXActi CMix-NN Activation Functions",
     " *",
     " * To be completed.",
     " * ",
     " */",
     "",
     "/**",
     " * @defgroup CMIXPool CMix-NN Pooling Functions",
     " *",
     " * To be completed.",
     " * ",
     " */",
     "",
     "/**",
     " * @defgroup CMIXSoftmax CMix-NN Softmax Functions",
     " *",
     " * To be completed.",
     " * ",
     " */",
     "#ifdef __cplusplus",
     "\x7d",
     "#endif",
     "",
     "#endif",
     ""]]

end KernelGen.Standard.PublicApi
