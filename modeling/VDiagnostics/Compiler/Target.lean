import VDiagnostics.Files
import VDiagnostics.Path.Relative

/-! What the compiler is given for a document. All sources of a folder are one module, so a document
with siblings is compiled with its folder. -/

namespace VDiagnostics

namespace Compiler

/-- The document itself if it is the only source in its folder, else the folder; both as seen from the
workspace. -/
def target (files : Files) (cwd document root : Text) : Except Fault Text :=
  let document := Path.absolute cwd document
  let root := Path.absolute cwd root
  let folder := Path.folder document
  (files.countSources folder).bind fun sources =>
    if sources = 1 then Path.relative cwd document root
    else if folder = root then .ok ['.']
    else Path.relative cwd folder root

end Compiler

end VDiagnostics
