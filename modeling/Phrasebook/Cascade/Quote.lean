/-!
# `Phrasebook.Cascade.Quote`: written texts as C string literals

A written text may hold a bare quote, one that no backslash takes. In a literal
such a quote would end the text, so it gets a backslash. Everything else is
already what the literal has to say.
-/

set_option autoImplicit false

namespace Phrasebook.Quote

/-- Puts a backslash in front of every bare quote, character by character. `taken`
tells whether a backslash before the text takes its first character. -/
def protectEach (taken : Bool) : List Char → List Char
  | [] => []
  | c :: rest =>
    let next := protectEach (c == '\\' && !taken) rest
    if c == '"' && !taken then '\\' :: c :: next else c :: next

/-- Puts a backslash in front of every bare quote. A text without quotes is kept at
once. -/
def protect (taken : Bool) (source : List Char) : List Char :=
  if source.contains '"' then protectEach taken source else source

/-- The body of the literal for a written text. -/
def escape (source : String) : String :=
  .ofList (protect false source.toList)

/-- The literal for a written text. -/
def literal (source : String) : String :=
  "\"" ++ escape source ++ "\""

example : escape "say \"hi\"" = "say \\\"hi\\\"" := by rfl
example : escape "say \\\"hi\\\"" = "say \\\"hi\\\"" := by rfl
example : escape "\\\\\"" = "\\\\\\\"" := by rfl

end Phrasebook.Quote
