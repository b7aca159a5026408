import WebLogin.Proofs.Bytes.Base64
import WebLogin.Proofs.Except
import WebLogin.Proofs.Json.Value
import WebLogin.Proofs.Text.Split
import WebLogin.State.Fragment

/-!
# Fragments are read back

Neither the dash inside a fragment nor the dot between fragments is a symbol of the coding of its
parts. So fragments that are joined come apart again, and each is read as what was written.

* `decode_encode`: a fragment whose data are spelled by their text.
* `exists_of_decode`: what is read has one spelling of its identifier.
* `split_join`: the texts of joined fragments.
-/

namespace WebLogin.StateFragment

/-- Neither a dash nor a dot is a symbol of the coding. -/
theorem notMem_encodePart {c : Char} (hc : c ∈ ['-', separator]) (text : String) :
    c ∉ encodePart text := by
  have hAll : ∀ v ∈ List.range 64, Base64.Alphabet.standard.symbol v ∉ ['-', separator] := by decide
  intro hMem
  obtain ⟨v, hv, rfl⟩ := Base64.symbol_of_mem_encode hMem
  exact hAll v (List.mem_range.mpr hv) hc

theorem decodePart_encodePart (text : String) : decodePart (encodePart text) = .ok text := by
  have hBytes : Base64.decode .standard (Utf8.encode (encodePart text)) = .ok (Utf8.bytes text) :=
    Base64.decode_eq_ok_iff.mpr rfl
  have hText : Utf8.decode (Utf8.bytes text) = .ok text.toList := Utf8.decode_encode text.toList
  simp only [decodePart, hBytes, hText, String.ofList_toList]

theorem eq_encodePart {part : List Char} {text : String} (hText : decodePart part = .ok text) :
    part = encodePart text := by
  unfold decodePart at hText
  split at hText
  · cases hText
  · next bytes hBytes =>
    split at hText
    · cases hText
    · next chars hChars =>
      cases hText
      have hPart := Utf8.encode_injective (Base64.decode_eq_ok_iff.mp hBytes)
      rw [hPart, Utf8.decode_eq_ok_iff.mp hChars, encodePart, Utf8.bytes, String.toList_ofList]

/-- A fragment has only one spelling of its identifier. -/
theorem exists_of_decode {text : List Char} {f : StateFragment} (hDecode : decode text = .ok f) :
    ∃ data, text = encodePart f.id ++ '-' :: data := by
  unfold decode at hDecode
  split at hDecode
  · cases hDecode
  · next part data hCut =>
    obtain ⟨id, hId, hDecode⟩ := Except.bind_eq_ok_iff.mp hDecode
    obtain ⟨json, hJson, hDecode⟩ := Except.bind_eq_ok_iff.mp hDecode
    split at hDecode
    · cases hDecode
    · cases hDecode
      refine ⟨data, ?_⟩
      rw [← eq_encodePart hId]
      exact (Text.cutFirst?_eq_some_iff.mp hCut).1

theorem decode_encode {f : StateFragment} (hData : f.data.Spelled) : decode (encode f) = .ok f := by
  have hCut : Text.cutFirst? '-' (encode f) = some (encodePart f.id, encodePart f.data.render) :=
    Text.cutFirst?_eq_some_iff.mpr ⟨rfl, notMem_encodePart List.mem_cons_self f.id⟩
  have hJson : Json.parse? f.data.render = some f.data := Json.parse?_render hData
  simp only [decode, hCut, decodePart_encodePart, bind, Except.bind, hJson]
  rfl

theorem separator_notMem_encode (f : StateFragment) : separator ∉ encode f := by
  have hPart (text : String) : separator ∉ encodePart text := notMem_encodePart (by decide) text
  intro hMem
  rcases List.mem_append.mp hMem with hId | hRest
  · exact hPart f.id hId
  · rcases List.mem_cons.mp hRest with hDash | hData
    · cases hDash
    · exact hPart f.data.render hData

theorem split_join {fragments : List StateFragment} (hSome : fragments ≠ []) :
    split (join fragments) = fragments.map encode := by
  rw [split, join, String.toList_ofList]
  refine Text.splitAll_intercalate (fun h => hSome (List.map_eq_nil_iff.mp h)) fun piece hPiece => ?_
  obtain ⟨f, -, rfl⟩ := List.mem_map.mp hPiece
  exact f.separator_notMem_encode

end WebLogin.StateFragment
