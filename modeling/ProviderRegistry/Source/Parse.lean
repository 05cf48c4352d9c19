import ProviderRegistry.Source.Literal
import ProviderRegistry.Source.Match

/-!
# Reading a source text

The statements of a source text, or the line to blame if it has no structure. Expressions inside
strings are texts of their own, which are read in the same way; they are nested only as deep as the
text is long.
-/

namespace ProviderRegistry.Source

/-- The line to blame in an expression inside a string, if it is none. The first argument bounds
how deep strings are nested. -/
def blameInner : Nat → Nat → List Char → Option Nat
  | 0, _, _ => none
  | depth + 1, line, text =>
    let scene : Scene := ⟨tokensOf line text, inspectStrings (blameInner depth)⟩
    match scene.parse .fstring with
    | .ok _ => none
    | .error line => some line

/-- The statements of a text, or the line to blame. -/
def parse (text : String) : Except Nat (List Stmt) :=
  let cs := text.toList
  let scene : Scene := ⟨tokensOf 1 cs, inspectStrings (blameInner cs.length)⟩
  (scene.parse .file).map Value.stmts

end ProviderRegistry.Source
