import SlotBinding.Proofs.ItemRespects
import SlotBinding.Proofs.LegibleTokens

/-!
# Sources declare legible attributes

The attributes that are read from a text, and those of everything that a source file declares, are legible again when
they are written.
-/

namespace SlotBinding

open Syntax (Attribute Bearing SourceFile)
open Token (Lexed)

namespace Grammar

variable {f : SourceFile}

theorem legible_of_readText {text : String} {as : List Attribute} {written : List Token}
    (read : readText outerAttributes text = .ok (as, written)) : ∀ a ∈ as, Token.Legible a.inside := by
  unfold readText at read
  split at read
  · rename_i ts tokens
    have bears := bears_of_readAll (B := Lexed) (fun _ _ => inferInstance) (Token.lexed_of_ofChars? tokens) read
    exact fun a among => (bears a among).legible
  · cases read

theorem bears_of_sourceFile {source : String} (parsed : sourceFile source = .ok f) :
    (∀ a ∈ f.attributes, Lexed a.inside) ∧ ∀ i ∈ f.items, ∀ j, i.Holds j → j.Keeps Lexed := by
  unfold sourceFile at parsed
  split at parsed
  · rename_i ts tokens
    cases read : readAll readFile ts with
    | error e =>
      rw [read] at parsed
      cases parsed
    | ok r =>
      rw [read] at parsed
      cases parsed
      exact bears_of_readAll (B := Lexed) (fun _ _ => inferInstance) (Token.lexed_of_ofChars? tokens) read
  · cases parsed

end Grammar

end SlotBinding
