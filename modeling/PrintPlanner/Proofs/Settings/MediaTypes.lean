import PrintPlanner.Proofs.Json.Strings
import PrintPlanner.Proofs.Media.Form
import PrintPlanner.Proofs.Settings.Loading

/-!
# Media types in JSON

A media type is stored as the string of its text, and any string is read as the media type that its
text names.  Escapes and capitals are gone once it is read, so what is written then need not be the
string that was read, but it stands for the same media type (`MediaType.stored_roundTrip`).
-/

set_option autoImplicit false

namespace PrintPlanner

open Json Text

namespace MediaType

theorem read_eq_ok_iff {bytes rest : List UInt8} {media : MediaType} :
    read bytes = .ok (media, rest) ↔
      ∃ text, readText bytes = .ok (text, rest) ∧ parse text = .ok media := by
  constructor
  · intro done
    rw [read, bind_eq_ok_iff] at done
    obtain ⟨⟨text, after⟩, taken, done⟩ := done
    dsimp only at done
    split at done
    · cases done
    · rename_i parsed
      cases done
      exact ⟨text, taken, parsed⟩
  · rintro ⟨text, taken, parsed⟩
    refine bind_eq_ok_iff.mpr ⟨_, taken, ?_⟩
    simp only [parsed]

/-- A media type is read from a string whose text names it. -/
theorem decode_eq_ok_iff {bytes : List UInt8} {media : MediaType} :
    Stored.decode bytes = .ok media ↔
      ∃ text, InGaps (IsString · text) bytes ∧ parse text = .ok media := by
  refine readWhole_eq_ok_iff.trans ⟨?_, ?_⟩
  · rintro ⟨after, done, behind⟩
    obtain ⟨text, taken, parsed⟩ := read_eq_ok_iff.mp done
    obtain ⟨before, string, rfl, front, stands⟩ := readText_eq_ok_iff.mp taken
    exact ⟨text, ⟨before, string, after, rfl, front, stands, behind⟩, parsed⟩
  · rintro ⟨text, ⟨before, string, after, rfl, front, stands, behind⟩, parsed⟩
    exact ⟨after, read_eq_ok_iff.mpr
      ⟨text, readText_eq_ok_iff.mpr ⟨before, string, rfl, front, stands⟩, parsed⟩, behind⟩

/-- What is written is the string of the text, with nothing around it. -/
theorem isString_encode (media : MediaType) :
    IsString (utf8 (Stored.encode media)) media.text :=
  isString_writeText media.text

theorem decode_encode (media : MediaType) :
    Stored.decode (utf8 (Stored.encode media)) = .ok media := by
  exact decode_eq_ok_iff.mpr ⟨media.text,
    ⟨[], _, [], by simp, isGap_nil, media.isString_encode, isGap_nil⟩, media.parse_text⟩

/-- **A media type survives being stored.**  It is given back by the text that it is written as,
directly and through a store whose loads do not fail, under any key.  And a text that a media type
is read from is a string, however its characters are written, whose text names the media type. -/
theorem stored_roundTrip :
    (∀ media : MediaType, Stored.decode (utf8 (Stored.encode media)) = .ok media) ∧
      (∀ (store : MemoryStore) (key : String) (media : MediaType), store.failsOnLoad = false →
        (saveSetting store key media).1 = .ok () ∧
          (loadSetting MediaType (saveSetting store key media).2 key).1 = .ok (some media)) ∧
      ∀ (bytes : List UInt8) (media : MediaType), Stored.decode bytes = .ok media ↔
        ∃ text, InGaps (IsString · text) bytes ∧ parse text = .ok media := by
  refine ⟨decode_encode, fun store key media loads => ⟨rfl, ?_⟩, fun _ _ => decode_eq_ok_iff⟩
  obtain ⟨body, written, _⟩ := media.isString_encode
  exact MemoryStore.loadSetting_saveSetting loads key (by simp [written]) media.decode_encode

/-- A string with a blank on either side, in which the capital, the slash, the quote and a character
of two code units are escaped, becomes one in which only the quote is. -/
theorem stored_roundTrip_escapes :
    ∃ media : MediaType,
      Stored.decode (utf8 " \"\\u0041\\/\\uD83d\\uDE00\\\"\"\n") = .ok media ∧
        (∃ text, InGaps (IsString · text) (utf8 " \"\\u0041\\/\\uD83d\\uDE00\\\"\"\n") ∧
          parse text = .ok media) ∧
        Stored.encode media = "\"a/😀\\\"\"" ∧
        Stored.decode (utf8 "\"a/😀\\\"\"") = .ok media ∧
        (∅ : MemoryStore).failsOnLoad = false ∧
        (loadSetting MediaType (saveSetting (∅ : MemoryStore) "format" media).2 "format").1 =
          .ok (some media) := by
  obtain ⟨again, kept, strings⟩ := stored_roundTrip
  generalize escaped : utf8 " \"\\u0041\\/\\uD83d\\uDE00\\\"\"\n" = bytes
  have shown : (Stored.decode bytes : Except Json.Error MediaType).toOption.map text =
      some "a/😀\"" := by
    rw [← escaped]
    decide +kernel
  have loads : (∅ : MemoryStore).failsOnLoad = false := rfl
  cases decoded : (Stored.decode bytes : Except Json.Error MediaType) with
  | error reason =>
      rw [decoded] at shown
      cases shown
  | ok media =>
      rw [decoded] at shown
      have shown : media.text = "a/😀\"" := Option.some.inj shown
      have written : Stored.encode media = "\"a/😀\\\"\"" := by
        rw [show Stored.encode media = writeText media.text from rfl, shown]
        decide +kernel
      exact ⟨media, rfl, (strings bytes media).mp decoded, written, written ▸ again media, loads,
        (kept ∅ _ media loads).2⟩

end MediaType

end PrintPlanner
