import Jobflow.Text.Pattern

/-!
# The texts of patterns

A pattern describes a set of texts, by the rules for characters, rows, choices and
repetitions. Taking derivatives decides membership: a text is accepted exactly if it is one
that the pattern describes.
-/

namespace Jobflow.Text.Pattern

end Jobflow.Text.Pattern
