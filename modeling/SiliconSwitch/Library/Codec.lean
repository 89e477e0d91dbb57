import Mathlib.Tactic

/-!
# Exact formats

What it is for a decoder to accept the encodings, and nothing else, over arbitrary
values and encodings.

* `Exact valid encode decode` — a valid value decodes from its encoding, and what is
  accepted is the encoding of a valid value. Then `decode` is the partial inverse of
  `encode` (`Exact.decode_eq_some`), accepts its image (`Exact.accepts_iff`) and
  identifies no two encodings (`Exact.eq_of_decode`).
* `SelfDelimiting decode` — nothing can follow what is accepted, and so nothing shorter
  is accepted either (`SelfDelimiting.decode_eq_none_of_prefix`).
* `ite_error_eq_ok` / `dite_error_eq_ok` — what a decoder with a guard that ends in an
  error has found out when it succeeds.
-/

namespace SiliconSwitch.Library

variable {α β : Type}

structure Exact (valid : α → Prop) (encode : α → β) (decode : β → Option α) : Prop where
  decode_encode : ∀ value, valid value → decode (encode value) = some value
  encode_decode : ∀ bytes value, decode bytes = some value → encode value = bytes
  valid_decode : ∀ bytes value, decode bytes = some value → valid value

namespace Exact

variable {valid : α → Prop} {encode : α → β} {decode : β → Option α}

/-- The decoder is the inverse of the encoder on the valid values. -/
theorem decode_eq_some (h : Exact valid encode decode) {bytes : β} {value : α} :
    decode bytes = some value ↔ valid value ∧ encode value = bytes := by
  constructor
  · intro hdecode
    exact ⟨h.valid_decode bytes value hdecode, h.encode_decode bytes value hdecode⟩
  · rintro ⟨hvalid, rfl⟩
    exact h.decode_encode value hvalid

/-- The decoder accepts the image of the encoder. -/
theorem accepts_iff (h : Exact valid encode decode) {bytes : β} :
    (∃ value, decode bytes = some value) ↔ ∃ value, valid value ∧ encode value = bytes :=
  exists_congr fun _ => h.decode_eq_some

/-- A value survives the round trip exactly if it is valid. -/
theorem decode_encode_iff (h : Exact valid encode decode) {value : α} :
    decode (encode value) = some value ↔ valid value := by
  rw [h.decode_eq_some]
  exact and_iff_left rfl

/-- No two encodings decode to the same value. -/
theorem eq_of_decode (h : Exact valid encode decode) {first second : β} {value : α}
    (hfirst : decode first = some value) (hsecond : decode second = some value) :
    first = second := by
  rw [← h.encode_decode first value hfirst, h.encode_decode second value hsecond]

end Exact

/-- Nothing is accepted with more bytes behind it. -/
def SelfDelimiting {γ : Type} (decode : List γ → Option α) : Prop :=
  ∀ bytes value, decode bytes = some value → ∀ extra, extra ≠ [] → decode (bytes ++ extra) = none

namespace SelfDelimiting

variable {γ : Type} {decode : List γ → Option α}

/-- No proper prefix of what is accepted is accepted. -/
theorem decode_eq_none_of_prefix (h : SelfDelimiting decode) {bytes front : List γ} {value : α}
    (hdecode : decode bytes = some value) (hfront : front <+: bytes) (hne : front ≠ bytes) :
    decode front = none := by
  obtain ⟨extra, rfl⟩ := hfront
  have hextra : extra ≠ [] := by
    rintro rfl
    exact hne (List.append_nil front).symm
  cases hfront : decode front with
  | none => rfl
  | some shorter =>
    rw [h front shorter hfront extra hextra] at hdecode
    simp at hdecode

/-- No proper extension of what is accepted is accepted. -/
theorem decode_eq_none_of_extension (h : SelfDelimiting decode) {bytes longer : List γ}
    {value : α} (hdecode : decode bytes = some value) (hfront : bytes <+: longer)
    (hne : bytes ≠ longer) : decode longer = none := by
  obtain ⟨extra, rfl⟩ := hfront
  refine h bytes value hdecode extra ?_
  rintro rfl
  exact hne (List.append_nil bytes).symm

end SelfDelimiting

-- ---------------------------------------------------------------------------
-- Guards
-- ---------------------------------------------------------------------------

section Guards

variable {ε γ : Type} {p : Prop} [Decidable p] {error : ε} {result : γ}

theorem ite_error_eq_ok {rest : Except ε γ} :
    (if p then .error error else rest) = .ok result ↔ ¬ p ∧ rest = .ok result := by
  by_cases hp : p
  · simp [hp]
  · simp [hp]

theorem dite_error_eq_ok {rest : ¬ p → Except ε γ} :
    (if h : p then .error error else rest h) = .ok result ↔ ∃ h : ¬ p, rest h = .ok result := by
  by_cases hp : p
  · simp [hp]
  · simp [hp]

end Guards

end SiliconSwitch.Library
