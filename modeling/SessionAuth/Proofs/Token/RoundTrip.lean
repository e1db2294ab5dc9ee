import SessionAuth.Proofs.Base64
import SessionAuth.Proofs.Json.RoundTrip
import SessionAuth.Proofs.Text.Bytes
import SessionAuth.Token.Signed

/-!
# Signed tokens read back

A token that was signed with a key is opened with this key, and its claims are the ones that were
signed.

* `splitToken?_sign`: a signed token falls into the three segments that it was made from.
* `Signable`: claims that survive being written and read.
* `open?_sign`: the main statement.
-/

namespace SessionAuth.Token

/-! ## Segments -/

theorem segmentBytes?_segment (bytes : List UInt8) : segmentBytes? (segment bytes) = some bytes :=
  Base64.decode?_encode Base64.faithful_urlSafe bytes

theorem segmentText?_segment (s : String) : segmentText? (segment (Hash.utf8 s)) = some s := by
  rw [segmentText?, segmentBytes?_segment, Option.bind_some, Hash.ofUtf8?_utf8]

theorem segment_char {bytes : List UInt8} {c : Char} (h : c ∈ segment bytes) :
    Base64.isTokenChar c = true :=
  Base64.encode_urlSafe_char bytes c h

theorem dot_notMem_segment (bytes : List UInt8) : '.' ∉ segment bytes := fun h =>
  absurd (segment_char h) (by decide)

theorem dot_notMem_signature (key : List UInt8) (cs : List Char) : '.' ∉ signature key cs :=
  dot_notMem_segment _

/-! ## Splitting -/

theorem splitLastDot?_append (before : List Char) {after : List Char} (h : '.' ∉ after) :
    splitLastDot? (before ++ '.' :: after) = some (before, after) := by
  have hrev : (before ++ '.' :: after).reverse = after.reverse ++ '.' :: before.reverse := by simp
  have hafter : ∀ c ∈ after.reverse, (c != '.') = true := by
    intro c hc
    rw [bne_iff_ne]
    rintro rfl
    exact h (List.mem_reverse.mp hc)
  rw [splitLastDot?, hrev, List.takeWhile_append_of_pos hafter,
    List.dropWhile_append_of_pos hafter]
  simp

theorem splitToken?_sign (key : List UInt8) (claims : Claims) :
    splitToken? (sign key claims).toList =
      some (segment (Hash.utf8 Header.text), segment (Hash.utf8 (Json.object claims).print),
        signature key (message claims)) := by
  rw [sign, String.toList_ofList, splitToken?,
    splitLastDot?_append _ (dot_notMem_signature key (message claims)),
    Option.bind_eq_bind, Option.bind_some]
  simp only [message, splitLastDot?_append _ (dot_notMem_segment _), Option.bind_some,
    Option.pure_def]

/-! ## Claims -/

/-- Claims that survive being written and read: they can be printed, and the registered ones
among them can stand where they stand. -/
structure Signable (claims : Claims) : Prop where
  printable : Json.Printable Json.maxDepth (.object claims)
  placeable : ∀ m ∈ claims, placeable m = true

theorem Signable.sorted {claims : Claims} (h : Signable claims) : Json.Fields.Sorted claims := by
  cases h.printable with
  | object hs _ => exact hs

/-- What is no container can stand anywhere. -/
theorem placeable_of_scalar {m : String × Json} (h : isContainer m.2 = false) :
    Token.placeable m = true := by
  have hf : isFilled m.2 = false := by
    cases hm : m.2 <;> simp_all [isContainer, isFilled]
  rw [Token.placeable, h, hf]
  split
  · rfl
  · split <;> rfl

theorem length_filter_key_le {claims : Claims} (h : Json.Fields.Sorted claims) (key : String) :
    (claims.filter (·.1 == key)).length ≤ 1 := by
  have hcount := List.nodup_iff_count.mp (Json.Fields.nodup_keys h) key
  rw [List.count, List.countP_map, List.countP_eq_length_filter] at hcount
  exact hcount

theorem wellFormed_of_signable {claims : Claims} (h : Signable claims) :
    wellFormed claims = true := by
  rw [wellFormed, Bool.and_eq_true, List.all_eq_true, List.all_eq_true]
  exact ⟨fun key _ => decide_eq_true (length_filter_key_le h.sorted key), h.placeable⟩

theorem claimsOf?_print {claims : Claims} (h : Signable claims) :
    claimsOf? (Json.object claims).print = some claims := by
  rw [claimsOf?, Json.entries?_print h.printable, Option.bind_eq_bind, Option.bind_some,
    if_pos (wellFormed_of_signable h), Json.Fields.ofList_of_sorted h.sorted]

/-- The header of the tokens that the service signs names the algorithm of the service. -/
theorem algorithm?_text : Header.algorithm? (Hash.utf8 Header.text) = some algorithm := by
  decide +kernel

/-- **A signed token opens to its claims.** -/
theorem open?_sign (key : List UInt8) {claims : Claims} (h : Signable claims) :
    open? key (sign key claims) = some claims := by
  rw [open?, splitToken?_sign]
  simp only [Option.bind_eq_bind, Option.bind_some, segmentBytes?_segment, algorithm?_text,
    segmentText?_segment, claimsOf?_print h]
  rw [if_pos ⟨trivial, by rw [message]⟩]

end SessionAuth.Token
