import KernelGen.Files.System

/-! What is asked of files before a run starts. Only answers to these questions decide which
configuration and which templates a run has. -/
namespace KernelGen

/-- Files that can be looked at. -/
class FileView (F : Type) where
  isDirectory : F → Path → Bool
  isFile : F → Path → Bool
  readText : F → Path → Except FileFault String

instance : FileView FileSystem where
  isDirectory := FileSystem.isDirectory
  isFile := FileSystem.isFile
  readText := FileSystem.readText

end KernelGen
