import PromptRegistry.Proofs.Json.Decode
import PromptRegistry.Proofs.Text.Base64Url
import PromptRegistry.Proofs.Text.Utf8
import PromptRegistry.Search.Page

/-!
# Walks through pages

A walk asks for page after page, each time with the token of the page before, until one comes
without a token. `Tiles` says of pages that they cut a list into pieces of given sizes. A search
whose answers are pages of one list, however long it takes them to be, is walked through in
finitely many steps, and the pages tile the list (`exists_walk`).
-/

namespace PromptRegistry.Search

open Json (Decode)

-- ---------------------------------------------------------------------------
-- Tokens
-- ---------------------------------------------------------------------------

namespace PageToken

theorem decodeJson_toJson {offset : Nat} (h : offset < UInt64.size) :
    decodeJson Decode.greatestDepth (toJson offset).draft = .ok offset := by
  have hnat : (Json.Number.ofNat offset).nat? UInt64.size = some offset := if_pos h
  have hread : Decode.nat UInt64.size 126 (Json.nat offset).draft = .ok offset := by
    show Decode.nat UInt64.size 126 (.number (some (.ofNat offset))) = _
    rw [Decode.nat, hnat]
  exact Decode.record_object (some offset)
    (.field List.not_mem_nil (congrArg (some ∘ Except.map some) hread) .nil) rfl

theorem decode_encode {offset : Nat} (h : offset < UInt64.size) :
    decode (encode offset) = .ok offset := by
  have hlegible : (toJson offset).Legible := ⟨Json.Number.legible_ofNat h, trivial⟩
  have hread := Decode.runString_render hlegible (decodeJson_toJson h)
  rw [decode, encode, String.toList_ofList, Text.Base64Url.decode?_encode]
  show Except.mapError _ (decodeJson.run (Text.Utf8.decode (Text.Utf8.encode _))) = _
  rw [Text.Utf8.decode_encode]
  exact mapError_eq_ok.2 hread

theorem encode_ne_empty (offset : Nat) : (encode offset).isEmpty = false := by
  have hbytes : Text.Utf8.encode (toJson offset).render ≠ [] := by
    rw [Text.Utf8.encode_eq_flatMap, Json.render, String.toList_ofList]
    exact List.append_ne_nil_of_left_ne_nil String.utf8EncodeChar_ne_nil _
  rw [← Bool.not_eq_true, String.isEmpty_iff, encode, String.ofList_eq_empty_iff]
  exact Text.Base64Url.encode_ne_nil hbytes

theorem offset_encode {n : Nat} (h : n < UInt64.size) : offset (some (encode n)) = .ok n := by
  rw [offset, encode_ne_empty]
  exact decode_encode h

end PageToken

-- ---------------------------------------------------------------------------
-- Pages of a list
-- ---------------------------------------------------------------------------

/-- The pages cut a list into pieces, of which the first is the `k`-th of all. Each is of its full
size and has a token, up to the last one. -/
inductive Tiles {α : Type} (size : Nat → Nat) : Nat → List α → List (Page α) → Prop
  | last (h : items.length ≤ size k) : Tiles size k items [⟨items, none⟩]
  | next (token : String) (h : size k < items.length)
      (hrest : Tiles size (k + 1) (items.drop (size k)) pages) :
      Tiles size k items (⟨items.take (size k), some token⟩ :: pages)

theorem Tiles.flatMap_items {items : List α} {pages : List (Page α)}
    (h : Tiles size k items pages) : pages.flatMap (·.items) = items := by
  induction h with
  | last h => exact List.append_nil _
  | next token h hrest ih => rw [List.flatMap_cons, ih, List.take_append_drop]

theorem Tiles.page {items : List α} {pages : List (Page α)} (h : Tiles size k items pages)
    {i : Nat} {page : Page α} (hpage : pages[i]? = some page) :
    page.items.length ≤ size (k + i) ∧ (page.next.isSome = true ↔ i + 1 < pages.length) ∧
      (page.next.isSome = true → page.items.length = size (k + i)) := by
  induction h generalizing i with
  | last h =>
    cases i with
    | zero =>
      cases hpage
      exact ⟨h, by simp, nofun⟩
    | succ i => cases hpage
  | @next k pages items token h hrest ih =>
    have hne : pages ≠ [] := by cases hrest <;> exact List.cons_ne_nil _ _
    cases i with
    | zero =>
      cases hpage
      have hfull : (items.take (size k)).length = size k := by
        rw [List.length_take]
        omega
      exact ⟨Nat.le_of_eq hfull, by simpa using List.length_pos_iff.2 hne, fun _ => hfull⟩
    | succ i =>
      have hindex : k + 1 + i = k + (i + 1) := by omega
      simpa [hindex] using ih hpage

theorem paginate_last {items : List α} (h : (items.drop offset).length ≤ size) :
    paginate items offset size = ⟨items.drop offset, none⟩ := by
  rw [List.length_drop] at h
  have hlast : ¬min (offset + size) items.length < items.length := by omega
  rw [paginate, List.take_of_length_le (by simpa using h)]
  simp [hlast]

theorem paginate_next {items : List α} (h : size < (items.drop offset).length) :
    paginate items offset size =
      ⟨(items.drop offset).take size, some (PageToken.encode (offset + size))⟩ := by
  rw [List.length_drop] at h
  have hlast : min (offset + size) items.length = offset + size := by omega
  have hmore : offset + size < items.length := by omega
  simp [paginate, hlast, hmore]

-- ---------------------------------------------------------------------------
-- Walks
-- ---------------------------------------------------------------------------

/-- The pages from the `k`-th on, each asked for with the token of the page before it, up to one
that comes without a token. -/
inductive Walk {α σ ε : Type} (ask : Nat → Option String → σ → Except ε (Page α) × σ) :
    Nat → Option String → σ → List (Page α) → Prop
  | last (h : ask k token s = (.ok page, s')) (hnext : page.next = none) :
      Walk ask k token s [page]
  | next (h : ask k token s = (.ok page, s')) (hnext : page.next = some next)
      (hrest : Walk ask (k + 1) (some next) s' pages) : Walk ask k token s (page :: pages)

/-- A walk whose answers are pages of one list ends, since no page is empty but the last, and its
pages cut up the list. -/
theorem exists_walk (inv : σ → Prop) {items : List α} {size : Nat → Nat}
    {ask : Nat → Option String → σ → Except ε (Page α) × σ}
    (hlength : items.length < UInt64.size) (hsize : ∀ k, 0 < size k)
    (hask : ∀ k token offset s, inv s → PageToken.offset token = .ok offset →
      ∃ s', inv s' ∧ ask k token s = (.ok (paginate items offset (size k)), s'))
    (k : Nat) {token : Option String} {s : σ} (hs : inv s)
    (htoken : PageToken.offset token = .ok offset) :
    ∃ pages, Walk ask k token s pages ∧ Tiles size k (items.drop offset) pages := by
  obtain ⟨s', hs', hpage⟩ := hask k token offset s hs htoken
  by_cases hmore : size k < (items.drop offset).length
  · rw [paginate_next hmore] at hpage
    have hpos := hsize k
    have hnext : offset + size k < items.length := by
      rw [List.length_drop] at hmore
      omega
    obtain ⟨pages, hwalk, htiles⟩ := exists_walk inv hlength hsize hask (k + 1) hs'
      (PageToken.offset_encode (Nat.lt_trans hnext hlength))
    rw [← List.drop_drop] at htiles
    exact ⟨_, .next hpage rfl hwalk, .next _ hmore htiles⟩
  · rw [paginate_last (Nat.not_lt.1 hmore)] at hpage
    exact ⟨_, .last hpage rfl, .last (Nat.not_lt.1 hmore)⟩
termination_by items.length - offset

end PromptRegistry.Search
