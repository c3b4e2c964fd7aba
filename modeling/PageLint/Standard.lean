import PageLint.Engine
import PageLint.Markup.Check
import PageLint.Script.Check
import PageLint.Style.Check

/-! The engine with a checker for every language. -/
namespace PageLint

def Engine.standard : Engine := ⟨[Markup.checker, Style.checker, Script.checker]⟩

end PageLint
