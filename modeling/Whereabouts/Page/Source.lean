import Whereabouts.Disk.Basic
/-!
# Where templates come from

The template is read anew for every page, so that an edit shows on the next one.
-/
namespace Whereabouts.Page

structure TemplateError where
  path : String
  error : DiskError
deriving DecidableEq

def TemplateError.message (failure : TemplateError) : String :=
  "failed to read template " ++ failure.path ++ ": " ++ failure.error.message

def readTemplate {m : Type → Type} [Monad m] [Disk m] (path : String) :
    ExceptT TemplateError m String :=
  (Disk.readText path).adapt fun error => ⟨path, error⟩

end Whereabouts.Page
