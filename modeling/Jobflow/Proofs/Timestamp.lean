import Jobflow.Proofs.Text.Digit
import Jobflow.Timestamp

/-!
# Texts of dates and times

All parts of a date or time have a fixed width, except that fractions of a second and offsets are
left out where there are none. What comes next in the text tells whether they are, so that the text
determines the date or time.
-/

namespace Jobflow

open Text

namespace Day

end Day

namespace Clock

end Clock

namespace Offset

end Offset

namespace Timestamp

end Timestamp

end Jobflow
