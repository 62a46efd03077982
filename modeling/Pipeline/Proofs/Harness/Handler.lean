import Pipeline.Proofs.Harness.Expectation
import Pipeline.Proofs.Text.Literal

/-!
# The handler of an expectation

The expectation of a refused command comes with a handler that prints a line for the program. The
text of the line stands between quotes as it is, where it is read twice: as a literal and as a
format string. So the handler prints the base name of the program exactly if each of its characters
stands for itself in both (`prints_itself_iff`). A program with a brace or a quote in its name has a
handler that prints something else, or none.
-/

namespace Pipeline
open Text

/-- The source text of what the handler of an expectation prints, from its first quote on. -/
def handlerSource? (expectation : String) : Option (List Char) :=
  ((behind? "cmd!(".toList expectation.toList).bind literals?).bind fun (_, handler) =>
    behind? "writeln!(ctx.stdout, ".toList handler

/-- The handler of an expectation prints a text: between its parentheses there is one literal, and
as a format string without arguments this prints the text. -/
def HandlerPrints (expectation out : String) : Prop :=
  ∃ source text, handlerSource? expectation = some source ∧
    literal? source = some (text, handlerBack) ∧ formatted? text = some out.toList

theorem handlerSource?_stubDefinition (path : String) (args : List String) :
    handlerSource? (stubDefinition path args) =
      some ('"' :: ((successText path).toList ++ '"' :: handlerBack)) := by
  have hbehind : behind? "cmd!(".toList (stubDefinition path args).toList =
      some (quotedTexts (path :: args) ++
        ')' :: (handlerFront ++ '"' :: ((successText path).toList ++ '"' :: handlerBack))) := by
    rw [stubDefinition_handler]
    rfl
  rw [handlerSource?, hbehind, Option.bind_some, literals?_quotedTexts, Option.bind_some]
  rfl

theorem handlerPrints_stubDefinition (path : String) (args : List String) (out : String) :
    HandlerPrints (stubDefinition path args) out ↔
      ∃ text, literal? ('"' :: ((successText path).toList ++ '"' :: handlerBack)) =
        some (text, handlerBack) ∧ formatted? text = some out.toList := by
  constructor
  · rintro ⟨source, text, hsource, hread⟩
    rw [handlerSource?_stubDefinition] at hsource
    cases hsource
    exact ⟨text, hread⟩
  · rintro ⟨text, hread⟩
    exact ⟨_, text, handlerSource?_stubDefinition path args, hread⟩

/-- The handler that is printed for an invocation prints the base name of the program and that it
succeeded, exactly if each character of the name stands for itself in a literal and in a format
string. -/
theorem handlerPrints_iff (path : String) (args : List String) :
    HandlerPrints (stubDefinition path args) (Command.programName path ++ " succeeded.") ↔
      (Command.programName path).toList.all standsForItself = true := by
  have hsuffix : " succeeded.".toList.all standsForItself = true := by decide
  have hiff := handlerPrints_stubDefinition path args (successText path)
  rw [prints_itself_iff, successText, String.toList_append, List.all_append, hsuffix,
    Bool.and_true] at hiff
  exact hiff

/-- A brace in the name asks for an argument that is not there; a quote ends the literal early. -/
theorem brace_and_quote_misprinted :
    (stubDefinition "a\x7bb" [] = "ExecutionStub::new(cmd!(\"a\x7bb\"), |ctx| \x7b\n" ++
      "    writeln!(ctx.stdout, \"a\x7bb succeeded.\")\n\x7d)" ∧
      formatted? "a\x7bb succeeded.".toList = none ∧
      ¬HandlerPrints (stubDefinition "a\x7bb" []) "a\x7bb succeeded.") ∧
    literal? "\"a\"b succeeded.\")\n\x7d)".toList =
      some (['a'], "b succeeded.\")\n\x7d)".toList) ∧
    ¬HandlerPrints (stubDefinition "a\"b" []) "a\"b succeeded." := by
  have hverbatim : "a\x7bb succeeded.".toList.all isVerbatim = true := by decide
  have hbrace : literal? "\"a\x7bb succeeded.\")\n\x7d)".toList =
      some ("a\x7bb succeeded.".toList, handlerBack) := literalBody?_verbatim hverbatim handlerBack
  have hfirst : ['a'].all isVerbatim = true := by decide
  have hquote : literal? "\"a\"b succeeded.\")\n\x7d)".toList =
      some (['a'], "b succeeded.\")\n\x7d)".toList) :=
    literalBody?_verbatim hfirst "b succeeded.\")\n\x7d)".toList
  refine ⟨⟨by decide, rfl, ?_⟩, hquote, ?_⟩
  · rw [handlerPrints_stubDefinition]
    rintro ⟨text, hliteral, hformat⟩
    obtain ⟨rfl, -⟩ := Prod.mk.inj (Option.some.inj (hliteral.symm.trans hbrace))
    cases hformat
  · rw [handlerPrints_stubDefinition]
    rintro ⟨text, hliteral, -⟩
    obtain ⟨-, hrest⟩ := Prod.mk.inj (Option.some.inj (hliteral.symm.trans hquote))
    exact absurd hrest (by decide)

end Pipeline
