import Reckon.Formula.Error
import Reckon.Text.Quoted

/-!
Why an edit of a sheet, or a question about one of its cells, is refused.
-/

namespace Reckon

/-- Why a sheet refuses an edit or a question. -/
inductive SheetError where
  | invalidName (name : String)
  | nullContent (name : String)
  | badFormula (error : FormatError)
  | circularDependency (name : String)
deriving DecidableEq

def SheetError.message : SheetError → String
  | .invalidName name => "invalid cell name: " ++ Text.quote name
  | .nullContent name => s!"no contents given for cell {name}"
  | .badFormula error => "invalid formula: " ++ error.message
  | .circularDependency name =>
      s!"setting {name} would create a circular dependency"

end Reckon
