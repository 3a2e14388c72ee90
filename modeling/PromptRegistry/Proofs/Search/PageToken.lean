import PromptRegistry.Proofs.Search.Page
import PromptRegistry.Proofs.Text.Percent

/-!
# Tokens on their way

A token is handed out with a page and comes back in the query of the next request. On the way
nothing of it is lost (`PageToken.encode_returns`).
-/

namespace PromptRegistry

theorem Text.Base64Url.IsWebSafe.plain {cs : List Char} (h : ∀ c ∈ cs, IsWebSafe c) :
    Percent.Plain cs := by
  intro c hc
  refine ⟨?_, ?_, ?_, ?_⟩ <;> rintro rfl <;> exact absurd (h _ hc) (by decide)

namespace Search.PageToken

open Text.Base64Url (IsWebSafe)

theorem isWebSafe_encode (offset : Nat) : ∀ c ∈ (encode offset).toList, IsWebSafe c := by
  rw [encode, String.toList_ofList]
  exact Text.Base64Url.isWebSafe_encode _

/-- A token is not empty and holds letters, digits, `-` and `_` only, so that in a query, behind
whatever else stands there, it is read as it was handed out. It leads to the offset that it was
made of, and to no other. -/
theorem encode_returns {n : Nat} (h : n < UInt64.size) :
    encode n ≠ "" ∧
      (∀ c ∈ (encode n).toList, c.isAlphanum = true ∨ c = '-' ∨ c = '_') ∧
      (∀ query, Text.Percent.queryPairs (query ++ "&page_token=" ++ encode n) =
        Text.Percent.queryPairs query ++ [("page_token", encode n)]) ∧
      decode (encode n) = .ok n ∧ offset (some (encode n)) = .ok n ∧
      ∀ m < UInt64.size, encode m = encode n → m = n := by
  have hsafe := isWebSafe_encode n
  refine ⟨?_, hsafe, fun query => ?_, decode_encode h, offset_encode h, fun m hm heq => ?_⟩
  · rw [← String.isEmpty_eq_false_iff]
    exact encode_ne_empty n
  · have hname : Text.Percent.Plain "page_token".toList := by decide
    have hpair := Text.Percent.queryPairs_append query hname (Text.Base64Url.IsWebSafe.plain hsafe)
    rw [← hpair]
    simp [String.append_assoc]
  · have hdecode := decode_encode hm
    rw [heq, decode_encode h] at hdecode
    cases hdecode
    rfl

theorem encode_returns_greatest :
    18446744073709551615 < UInt64.size ∧
      encode 18446744073709551615 = "eyJvZmZzZXQiOjE4NDQ2NzQ0MDczNzA5NTUxNjE1fQ" ∧
      decode "eyJvZmZzZXQiOjE4NDQ2NzQ0MDczNzA5NTUxNjE1fQ" = .ok 18446744073709551615 := by
  have htoken : encode 18446744073709551615 = "eyJvZmZzZXQiOjE4NDQ2NzQ0MDczNzA5NTUxNjE1fQ" := by
    decide +kernel
  have hsize : 18446744073709551615 < UInt64.size := by decide
  exact ⟨hsize, htoken, htoken ▸ (encode_returns hsize).2.2.2.1⟩

end Search.PageToken

end PromptRegistry
