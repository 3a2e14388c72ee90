import PromptRegistry.Proofs.Text.Stretch
import PromptRegistry.Proofs.Text.Utf8
import PromptRegistry.Text.Percent

/-!
# Plain texts in query strings

A text without the signs that mean something in a query string is read from it as it stands, and a
pair of such texts at the end of a query is the last pair of it (`queryPairs_append`).
-/

namespace PromptRegistry.Text

theorem Utf8.decodeLossy_encode (s : String) : Utf8.decodeLossy (Utf8.encode s) = s := by
  simp [Utf8.decodeLossy, Utf8.decode_encode, Function.comp_def]

namespace Percent

/-- A text that stands for itself in a query string. -/
def Plain (cs : List Char) : Prop := ∀ c ∈ cs, c ≠ '&' ∧ c ≠ '=' ∧ c ≠ '+' ∧ c ≠ '%'

instance (cs : List Char) : Decidable (Plain cs) := List.decidableBAll _ cs

-- ---------------------------------------------------------------------------
-- Fields
-- ---------------------------------------------------------------------------

theorem decode_of_not_mem {bytes : List UInt8} (h : 0x25 ∉ bytes) : decode bytes = bytes := by
  fun_induction decode bytes with
  | case1 | case2 => simp at h
  | case3 b rest _ ih => rw [ih fun hrest => h (List.mem_cons_of_mem _ hrest)]
  | case4 => rfl

theorem eq_of_mem_utf8EncodeChar {c : Char} (h : 0x25 ∈ String.utf8EncodeChar c) : c = '%' := by
  have hbyte {n : Nat} (hn : 0x25 = UInt8.ofNat n) : n % 256 = 0x25 := by
    simpa using (congrArg UInt8.toNat hn).symm
  simp only [String.utf8EncodeChar] at h
  split at h
  · next hone =>
    have hc := hbyte (List.mem_singleton.1 h)
    refine Char.toNat_inj.1 ?_
    show c.val.toNat = 0x25
    omega
  split at h
  · simp only [List.mem_cons, List.not_mem_nil, or_false] at h
    rcases h with h | h <;> exact absurd (hbyte h) (by omega)
  split at h
  · simp only [List.mem_cons, List.not_mem_nil, or_false] at h
    rcases h with h | h | h <;> exact absurd (hbyte h) (by omega)
  · simp only [List.mem_cons, List.not_mem_nil, or_false] at h
    rcases h with h | h | h | h <;> exact absurd (hbyte h) (by omega)

theorem decodeField_plain {cs : List Char} (h : Plain cs) : decodeField cs = String.ofList cs := by
  have hspaced : cs.map (fun c => if c = '+' then ' ' else c) = cs := by
    conv => rhs; rw [← List.map_id cs]
    exact List.map_congr_left fun c hc => if_neg (h c hc).2.2.1
  have hbytes : 0x25 ∉ Utf8.encode (String.ofList cs) := by
    rw [Utf8.encode_eq_flatMap, String.toList_ofList, List.mem_flatMap]
    rintro ⟨c, hc, hbyte⟩
    exact (h c hc).2.2.2 (eq_of_mem_utf8EncodeChar hbyte)
  rw [decodeField, hspaced, decode_of_not_mem hbytes, Utf8.decodeLossy_encode]

-- ---------------------------------------------------------------------------
-- Pairs
-- ---------------------------------------------------------------------------

theorem splitAt_of_not_mem {separator : Char} {cs : List Char} (h : separator ∉ cs) :
    splitAt separator cs = [cs] := by
  induction cs with
  | nil => rfl
  | cons c cs ih =>
    simp only [List.mem_cons, not_or] at h
    simp [splitAt, ih h.2, Ne.symm h.1]

theorem splitAt_ne_nil (separator : Char) (cs : List Char) : splitAt separator cs ≠ [] := by
  fun_cases splitAt separator cs <;> simp

theorem splitAt_append (separator : Char) (cs ds : List Char) :
    splitAt separator (cs ++ separator :: ds) = splitAt separator cs ++ splitAt separator ds := by
  induction cs with
  | nil => simp [splitAt]
  | cons c cs ih =>
    by_cases hc : c = separator
    · simp [splitAt, hc, ih]
    · obtain ⟨piece, pieces, hsplit⟩ := List.exists_cons_of_ne_nil (splitAt_ne_nil separator cs)
      simp [splitAt, hc, ih, hsplit]

theorem splitFirst_eq {separator : Char} {cs : List Char} (h : separator ∉ cs) (ds : List Char) :
    splitFirst separator (cs ++ separator :: ds) = (cs, ds) := by
  have hcs : ∀ c ∈ cs, decide (c ≠ separator) = true := by
    intro c hc
    exact decide_eq_true fun heq => h (heq ▸ hc)
  obtain ⟨htake, hdrop⟩ := takeWhile_stretch hcs (separator :: ds) (by simp)
  rw [splitFirst, htake, hdrop]
  rfl

/-- A pair of plain texts behind a query is read last and as it is. -/
theorem queryPairs_append (query : String) {name value : String} (hname : Plain name.toList)
    (hvalue : Plain value.toList) :
    queryPairs (query ++ "&" ++ name ++ "=" ++ value) = queryPairs query ++ [(name, value)] := by
  have hand : '&' ∉ name.toList ++ '=' :: value.toList := by
    simp only [List.mem_append, List.mem_cons, not_or]
    exact ⟨fun h => (hname _ h).1 rfl, by decide, fun h => (hvalue _ h).1 rfl⟩
  have heq : '=' ∉ name.toList := fun h => (hname _ h).2.1 rfl
  have htext : (query ++ "&" ++ name ++ "=" ++ value).toList =
      query.toList ++ '&' :: (name.toList ++ '=' :: value.toList) := by simp
  simp [queryPairs, htext, splitAt_append, splitAt_of_not_mem hand, splitFirst_eq heq,
    decodeField_plain hname, decodeField_plain hvalue]

end Percent

end PromptRegistry.Text
