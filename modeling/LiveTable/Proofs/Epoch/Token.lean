import LiveTable.Epoch
import LiveTable.Proofs.Text.Hex
set_option autoImplicit false

/-!
# Tokens

The token of an epoch is read back as that epoch, so that a token names one epoch only. Main
statements: `ofText?_token` and `token_injective` for tokens, and `eq_of_matchesToken`, by which no
text is recognised by two epochs.
-/

namespace LiveTable

namespace Epoch

theorem readHex?_digits (e : Epoch) : Text.readHex? 0 e.digits = some e.value.toNat := by
  have bound : e.value.toNat < 16 ^ 32 := e.value.isLt
  rw [digits, Text.readHex?_hexDigits, Nat.mod_eq_of_lt bound, Nat.zero_mul, Nat.zero_add]

theorem ofText?_token (e : Epoch) : ofText? e.token = some e := by
  have plain : digits? e.token.toList = some e.digits := by
    simp [token, digits?, digits]
  have same : BitVec.ofNat 128 e.value.toNat = e.value := by simp
  rw [ofText?, plain, Option.bind_some, readHex?_digits, Option.map_some, same]

theorem token_injective : Function.Injective token := by
  intro e other same
  have named := ofText?_token e
  rw [same, ofText?_token] at named
  exact (Option.some.inj named).symm

@[simp] theorem token_inj {e other : Epoch} : e.token = other.token ↔ e = other :=
  token_injective.eq_iff

@[simp] theorem matchesToken_token (e other : Epoch) :
    e.matchesToken other.token = decide (other = e) := by
  simp [matchesToken, ofText?_token]

theorem eq_of_matchesToken {e other : Epoch} {text : String} (first : e.matchesToken text)
    (second : other.matchesToken text) : other = e := by
  simp only [matchesToken, decide_eq_true_eq] at first second
  exact Option.some.inj (second.symm.trans first)

end Epoch

end LiveTable
