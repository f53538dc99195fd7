import FabricGauges.Proofs.Checks
import FabricGauges.Proofs.Text.Pieces
import FabricGauges.Proofs.Url.Visible

/-!
# Where an authority ends

An authority does not end in a blank: it ends in a digit or the colon of its port, in the bracket of
an address, or in a character of a name, which is no blank even where escapes have been resolved.
-/

namespace FabricGauges

open Text Url

/-- A blank is no digit. -/
theorem Url.hexValue?_of_isFaint {c : Char} (h : isFaint c = true) : hexValue? c = none :=
  forall_faint (P := fun c => hexValue? c = none) (by decide) h

namespace Host

/-! ## Names -/

/-- A blank is not a part of a name. -/
theorem isNameChar_of_isFaint {c : Char} (h : isFaint c = true) : isNameChar c = false :=
  forall_faint (P := fun c => isNameChar c = false) (by decide) h

/-- A blank is kept where letters are made small. -/
theorem fold_of_isFaint {c : Char} (h : isFaint c = true) : fold c = [c] :=
  forall_faint (P := fun c => fold c = [c]) (by decide) h

/-- The bytes of a text that has been read from them. -/
theorem utf8_of_fromUTF8? {bytes : List UInt8} {text : String}
    (h : String.fromUTF8? ⟨⟨bytes⟩⟩ = some text) : utf8 text.toList = bytes := by
  unfold String.fromUTF8? at h
  split_ifs at h with hvalid
  have htext : text.toByteArray = ⟨⟨bytes⟩⟩ := by
    rw [← Option.some.inj h]
    rfl
  rw [← String.utf8Encode_toList] at htext
  have hdata : text.toList.utf8Encode.data.toList = bytes := congrArg (·.data.toList) htext
  rwa [List.utf8Encode, List.toList_data_toByteArray] at hdata

/-- A name does not end in a blank. -/
theorem ofName_ne_ok {written : List Char} {c : Char} (hc : c ∈ written.getLast?)
    (hfaint : isFaint c = true) (host : Host) : ofName written ≠ .ok host := by
  intro h
  obtain ⟨init, rfl⟩ := List.getLast?_eq_some_iff.1 hc
  have hascii : c.toNat < 0x80 := Nat.lt_of_le_of_lt (of_decide_eq_true hfaint) (by decide)
  unfold ofName at h
  split at h
  · cases h
  · rename_i decoded hdecoded
    have hbytes := utf8_of_fromUTF8? hdecoded
    rw [Percent.decode_concat (hexValue?_of_isFaint hfaint)] at hbytes
    -- the blank is not escaped, so it is in the last label, which then is none
    have hlast := getLast?_of_utf8_eq hascii hbytes
    have hmem : c ∈ decoded.toList.flatMap fold :=
      List.mem_flatMap.2 ⟨c, List.mem_of_getLast? hlast, by simp [fold_of_isFaint hfaint]⟩
    have hdot : (c == '.') = false :=
      forall_faint (P := fun c => (c == '.') = false) (by decide) hfaint
    obtain ⟨label, hlabel, hin⟩ : ∃ label ∈ pieces (· == '.') (decoded.toList.flatMap fold),
        c ∈ label := exists_mem_pieces hdot hmem
    have hbad : isLabel label = false := by
      have hall : label.all isNameChar = false :=
        List.all_eq_false.2 ⟨c, hin, by simp [isNameChar_of_isFaint hfaint]⟩
      simp [isLabel, hall]
    have hlabels : (pieces (· == '.') (decoded.toList.flatMap fold)).all isLabel = false :=
      List.all_eq_false.2 ⟨label, hlabel, by simp [hbad]⟩
    simp [hlabels] at h

/-- The host of a URL does not end in a blank. -/
theorem ofText_ne_ok {written : List Char} {c : Char} (hc : c ∈ written.getLast?)
    (hfaint : isFaint c = true) (host : Host) : ofText written ≠ .ok host := by
  unfold ofText
  split
  · rename_i inside
    -- Behind the bracket nothing but another bracket ends the address.
    have hbracket : inside.getLast? ≠ some ']' := by
      intro hlast
      rw [List.getLast?_cons, hlast] at hc
      have hthis : ']' = c := by simpa using hc
      exact absurd (hthis ▸ hfaint) (by decide)
    unfold ofBrackets
    split
    · rename_i hlast
      exact absurd hlast hbracket
    · simp
  · exact ofName_ne_ok hc hfaint host

end Host

/-! ## Ports -/

/-- Where digits go on to the end of a text, all of it is digits. -/
theorem Address.isSome_digit?_of_digits {base : Nat} {s : List Char} (h : (digits base s).2 = []) :
    ∀ c ∈ s, (digit? base c).isSome := by
  induction s with
  | nil => simp
  | cons c s ih =>
    rw [digits] at h
    split at h
    · simp at h
    · rename_i d hd
      exact List.forall_mem_cons.2 ⟨by simp [hd], ih h⟩

/-- Where a number goes on to the end of a text, all of it is digits. -/
theorem Address.isSome_digit?_of_number? {limit n : Nat} {s : List Char}
    (h : number? limit s = some (n, [])) : ∀ c ∈ s, (digit? 10 c).isSome := by
  apply isSome_digit?_of_digits
  unfold number? at h
  split at h
  · cases h
  · rename_i ds rest hne hdigits
    split_ifs at h
    have hrest : rest = [] := (Prod.mk.inj (Option.some.inj h)).2
    rw [hdigits, hrest]

namespace Url

/-- A port and the colon before it do not end in a blank. -/
theorem readPort_ne_ok {s : List Char} (hcolon : ∀ c ∈ s.head?, c = ':') {c : Char}
    (hc : c ∈ s.getLast?) (hfaint : isFaint c = true) (port : Option Nat) :
    readPort s ≠ .ok port := by
  match s with
  | [] => simp at hc
  | [d] =>
    have hd : d = c := by simpa using hc
    have hthis : c = ':' := hd ▸ hcolon d rfl
    exact absurd (hthis ▸ hfaint) (by decide)
  | d :: e :: digits =>
    have hlast : c ∈ e :: digits := List.mem_of_getLast? (by rwa [List.getLast?_cons_cons] at hc)
    intro h
    simp only [readPort, List.drop_one, List.tail_cons] at h
    split at h
    · rename_i n hnumber
      have hall := Address.isSome_digit?_of_number? hnumber c hlast
      simp [Address.digit?, hexValue?_of_isFaint hfaint] at hall
    · cases h

/-! ## Authorities -/

/-- The host and what follows it make up the text. -/
theorem splitPort_append (inBrackets : Bool) (s : List Char) :
    (splitPort inBrackets s).1 ++ (splitPort inBrackets s).2 = s := by
  induction s generalizing inBrackets with
  | nil => rfl
  | cons c s ih =>
    rw [splitPort]
    split
    · rfl
    · simp [ih]

/-- What follows a host begins with a colon. -/
theorem head?_splitPort (inBrackets : Bool) (s : List Char) :
    ∀ c ∈ (splitPort inBrackets s).2.head?, c = ':' := by
  induction s generalizing inBrackets with
  | nil => simp [splitPort]
  | cons c s ih =>
    rw [splitPort]
    split
    · rename_i h
      simp [h.1]
    · exact ih _

/-- What follows a user ends the authority. -/
theorem splitUser_suffix (s : List Char) : (splitUser s).2 <:+ s := by
  unfold splitUser
  dsimp only
  split_ifs
  · exact List.rtakeWhile_suffix _ _
  · exact List.suffix_refl _

/-- The parts of an authority. -/
theorem readAuthority_eq_ok {s : List Char} {host : Host} {port : Option Nat}
    (h : readAuthority s = .ok (host, port)) :
    ∃ written after, written ≠ [] ∧ written ++ after = (splitUser s).2 ∧
      (∀ c ∈ after.head?, c = ':') ∧ Host.ofText written = .ok host ∧ readPort after = .ok port := by
  simp only [readAuthority, bind_eq_ok, check_bind_eq_ok, pure, Except.pure] at h
  obtain ⟨hne, host', hhost, port', hport, hparts⟩ := h
  cases hparts
  exact ⟨_, _, by simpa using hne, splitPort_append _ _, head?_splitPort _ _, hhost, hport⟩

/-- An authority does not end in a blank. -/
theorem readAuthority_ne_ok {s : List Char} {c : Char} (hc : c ∈ s.getLast?)
    (hfaint : isFaint c = true) (parts : Host × Option Nat) : readAuthority s ≠ .ok parts := by
  intro h
  obtain ⟨written, after, hne, hparts, hcolon, hhost, hport⟩ := readAuthority_eq_ok h
  obtain ⟨before, hbefore⟩ := splitUser_suffix s
  rw [← hbefore, ← hparts] at hc
  by_cases hafter : after = []
  · rw [hafter, List.append_nil, List.getLast?_append_of_ne_nil _ hne] at hc
    exact Host.ofText_ne_ok hc hfaint parts.1 hhost
  · rw [← List.append_assoc, List.getLast?_append_of_ne_nil _ hafter] at hc
    exact readPort_ne_ok hcolon hc hfaint parts.2 hport

end Url

end FabricGauges
