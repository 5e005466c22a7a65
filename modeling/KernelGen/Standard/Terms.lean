import KernelGen.Standard.Part

/-! The notice that generated sources start with. -/
namespace KernelGen.Standard.Terms

open Template

/-- The notice at the top of a file. -/
def terms : List Node :=
  [lines [
     "/*",
     " * Copyright (C) 2010-2018 Arm Limited or its affiliates. All rights reserved.",
     " * Modifications Copyright (C) 2018 University of Bologna",
     " *",
     " * SPDX-License-Identifier: Apache-2.0",
     " *",
     " * Licensed under the Apache License, Version 2.0 (the License); you may",
     " * not use this file except in compliance with the License.",
     " * You may obtain a copy of the License at",
     " *",
     " * www.apache.org/licenses/LICENSE-2.0",
     " *",
     " * Unless required by applicable law or agreed to in writing, software",
     " * distributed under the License is distributed on an AS IS BASIS, WITHOUT",
     " * WARRANTIES OR CONDITIONS OF ANY KIND, either express or implied.",
     " * See the License for the specific language governing permissions and",
     " * limitations under the License.",
     " */"]]

end KernelGen.Standard.Terms
