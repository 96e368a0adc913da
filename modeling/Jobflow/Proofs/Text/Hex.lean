import Mathlib
import Jobflow.Text.Hex

/-!
# Reading hexadecimal escapes

The digits of a number that has enough room read back as the number.
-/

namespace Jobflow.Text

end Jobflow.Text
