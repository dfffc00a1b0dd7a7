import Mathlib.Data.List.Infix
import NestedTx.Proofs.Url.Written

/-!
# Segments of paths

A path is walked over once. No segment that is left stands for another place, and encoding makes
none that would, so that whoever walks over the path again finds every segment where it was.
-/

namespace NestedTx.Url

open Text

/-! ### Dots -/

/-- How the segments that stand for other places are written, in lower case. -/
def dotWords : List (List Char) :=
  [".".toList, "%2e".toList, "..".toList, ".%2e".toList, "%2e.".toList, "%2e%2e".toList]

/-- Does the segment stand for the place where it is, or for the one above? -/
def isDots (s : List Char) : Bool :=
  isSingleDot s || isDoubleDot s

variable {c : Char} {s cs : List Char} {segments done : List (List Char)}

lemma isDots_iff : isDots s = true ↔ lowercase s ∈ dotWords := by
  simp [isDots, isSingleDot, isDoubleDot, dotWords, or_assoc]

/-- In dots every `%` is that of an encoded dot. -/
lemma take_of_mem_tails_dotWords : ∀ w ∈ dotWords, ∀ t ∈ w.tails,
    t.head? = some '%' → t.take 3 = "%2e".toList := by
  simp only [← List.forall_iff_forall_mem]
  decide

lemma lowercase_encodeByte_ne :
    ∀ b : UInt8, b ≠ 0x2E → lowercase (encodeByte b) ≠ "%2e".toList := by
  apply forall_byte
  decide +kernel

lemma eq_dot_of_isDots {front back : List Char} {b : UInt8}
    (h : isDots (front ++ (encodeByte b ++ back)) = true) : b = 0x2E := by
  have suffix : lowercase (encodeByte b ++ back) <:+ lowercase (front ++ (encodeByte b ++ back)) :=
    (List.suffix_append _ _).map _
  have word := take_of_mem_tails_dotWords _ (isDots_iff.1 h) _ ((List.mem_tails _ _).2 suffix) rfl
  by_contra other
  exact lowercase_encodeByte_ne b other word

lemma eq_dot_of_utf8EncodeChar {bs : List UInt8} (h : String.utf8EncodeChar c = 0x2E :: bs) :
    c = '.' := by
  obtain ⟨b, bs', bytes, step⟩ := utf8Step_utf8EncodeChar c []
  rw [h] at bytes
  cases bytes
  have dot : utf8Step 0x2E (bs ++ []) = (some '.', bs ++ []) := rfl
  rw [dot, Prod.mk.injEq, Option.some.injEq] at step
  exact step.1.symm

/-- What is encoded are no dots, as a dot is not encoded in a path. -/
lemma isDots_of_percentEncode (h : isDots (percentEncode inPathSet s) = true) :
    isDots s = true := by
  by_cases plain : ∀ c ∈ s, inPathSet c = false
  · rwa [percentEncode_eq_self plain] at h
  · simp only [not_forall, Bool.not_eq_false] at plain
    obtain ⟨c, hc, inSet⟩ := plain
    obtain ⟨front, back, rfl⟩ := List.append_of_mem hc
    obtain ⟨b, bs, bytes, -⟩ := utf8Step_utf8EncodeChar c []
    have written : percentEncode inPathSet (front ++ c :: back) =
        percentEncode inPathSet front ++
          (encodeByte b ++ (bs.flatMap encodeByte ++ percentEncode inPathSet back)) := by
      simp [percentEncode, inSet, bytes]
    rw [written] at h
    obtain rfl := eq_dot_of_isDots h
    obtain rfl := eq_dot_of_utf8EncodeChar bytes
    cases inSet

/-! ### Walking -/

/-- The segment is left as it is: it is encoded, has no slash in it and is no dots. -/
structure Settled (s : List Char) : Prop where
  encoded : ∀ c ∈ s, inPathSet c = false
  whole : '/' ∉ s
  fixed : isDots s = false

lemma settled_nil : Settled [] :=
  ⟨nofun, List.not_mem_nil, rfl⟩

lemma settled_percentEncode (whole : '/' ∉ s) (fixed : isDots s = false) :
    Settled (percentEncode inPathSet s) := by
  refine ⟨not_inPathSet_percentEncode (fun _ => id) s, fun slash => ?_, ?_⟩
  · rcases mem_percentEncode slash with ⟨own, -⟩ | ⟨b, written⟩
    · exact whole own
    · exact absurd (encodeByte_plain b '/' written).1 (by decide)
  · rw [← Bool.not_eq_true] at fixed ⊢
    exact fun dots => fixed (isDots_of_percentEncode dots)

/-- What one segment makes of the segments before it. At the end of a path dots leave an empty
segment. -/
def arrive (done : List (List Char)) (s : List Char) (last : Bool) : List (List Char) :=
  if isDots s then
    (if isDoubleDot s then shorten done else done) ++ if last then [[]] else []
  else done ++ [percentEncode inPathSet s]

lemma walk_cons (done : List (List Char)) (s : List Char) (rest : List (List Char)) :
    walk .plain done (s :: rest) = walk .plain (arrive done s rest.isEmpty) rest := by
  rw [walk, arrive, isDots]
  cases isDoubleDot s <;> cases isSingleDot s <;> cases rest <;> simp

lemma settled_arrive (hd : ∀ s ∈ done, Settled s) (whole : '/' ∉ s) (last : Bool) :
    ∀ t ∈ arrive done s last, Settled t := by
  have shorter : ∀ t ∈ shorten done, Settled t := by
    rw [shorten]
    split_ifs
    · exact hd
    · exact fun t ht => hd t (List.dropLast_subset done ht)
  cases dots : isDots s with
  | false =>
    rw [arrive, dots, if_neg Bool.false_ne_true, List.forall_mem_append, List.forall_mem_singleton]
    exact ⟨hd, settled_percentEncode whole dots⟩
  | true =>
    rw [arrive, dots, if_pos rfl, List.forall_mem_append]
    constructor
    · split_ifs
      · exact shorter
      · exact hd
    · cases last with
      | false => exact List.forall_mem_nil _
      | true => exact List.forall_mem_singleton.2 settled_nil

/-- What is walked over is settled. -/
lemma settled_walk (hd : ∀ s ∈ done, Settled s) (hs : ∀ s ∈ segments, '/' ∉ s) :
    ∀ s ∈ walk .plain done segments, Settled s := by
  induction segments generalizing done with
  | nil => exact hd
  | cons s rest ih =>
    obtain ⟨whole, later⟩ := List.forall_mem_cons.1 hs
    rw [walk_cons]
    exact ih (settled_arrive hd whole _) later

lemma arrive_last_ne_nil : arrive done s true ≠ [] := by
  rw [arrive, if_pos (show true = true from rfl)]
  split_ifs <;> simp

/-- Something is left of a path. -/
lemma walk_ne_nil (h : segments ≠ []) : walk .plain done segments ≠ [] := by
  induction segments generalizing done with
  | nil => exact absurd rfl h
  | cons s rest ih =>
    rw [walk_cons]
    cases rest with
    | nil => exact arrive_last_ne_nil
    | cons next rest => exact ih (List.cons_ne_nil _ _)

lemma Settled.arrive_eq (h : Settled s) (done : List (List Char)) (last : Bool) :
    arrive done s last = done ++ [s] := by
  rw [arrive, h.fixed, if_neg Bool.false_ne_true, percentEncode_eq_self h.encoded]

/-- What is settled is left as it is. -/
lemma walk_of_settled (h : ∀ s ∈ segments, Settled s) (done : List (List Char)) :
    walk .plain done segments = done ++ segments := by
  induction segments generalizing done with
  | nil => rw [walk, List.append_nil]
  | cons s rest ih =>
    obtain ⟨first, later⟩ := List.forall_mem_cons.1 h
    rw [walk_cons, first.arrive_eq, ih later, List.append_assoc, List.singleton_append]

/-! ### Cutting a path at its slashes -/

lemma splitSegments_slash (cs : List Char) :
    splitSegments .plain ('/' :: cs) = [] :: splitSegments .plain cs :=
  rfl

lemma splitSegments_cons (hc : c ≠ '/') {first : List Char} {rest : List (List Char)}
    (h : splitSegments .plain cs = first :: rest) :
    splitSegments .plain (c :: cs) = (c :: first) :: rest := by
  have other : SchemeKind.plain.isSlash c = false := by
    simp [SchemeKind.isSlash, SchemeKind.isSpecial, hc]
  rw [splitSegments, other, if_neg Bool.false_ne_true, h]

/-- A text is cut into pieces without slashes. -/
lemma splitSegments_plain (cs : List Char) :
    ∃ first rest, splitSegments .plain cs = first :: rest ∧ ∀ s ∈ first :: rest, '/' ∉ s := by
  induction cs with
  | nil => exact ⟨[], [], rfl, List.forall_mem_singleton.2 List.not_mem_nil⟩
  | cons c cs ih =>
    obtain ⟨first, rest, cut, whole⟩ := ih
    by_cases slash : c = '/'
    · subst slash
      refine ⟨[], first :: rest, by rw [splitSegments_slash, cut], ?_⟩
      exact List.forall_mem_cons.2 ⟨List.not_mem_nil, whole⟩
    · obtain ⟨plain, later⟩ := List.forall_mem_cons.1 whole
      refine ⟨c :: first, rest, splitSegments_cons slash cut, List.forall_mem_cons.2 ⟨?_, later⟩⟩
      rw [List.mem_cons, not_or]
      exact ⟨Ne.symm slash, plain⟩

/-- The pieces between slashes are found again. -/
lemma splitSegments_text {rest : List (List Char)} (hs : '/' ∉ s) (hr : ∀ t ∈ rest, '/' ∉ t) :
    splitSegments .plain (s ++ (Path.rooted rest).text) = s :: rest := by
  induction rest generalizing s with
  | nil =>
    induction s with
    | nil => rfl
    | cons c s ih =>
      rw [List.mem_cons, not_or] at hs
      exact splitSegments_cons (Ne.symm hs.1) (ih hs.2)
  | cons t rest ih =>
    obtain ⟨next, later⟩ := List.forall_mem_cons.1 hr
    induction s with
    | nil =>
      show splitSegments .plain ('/' :: (t ++ (Path.rooted rest).text)) = _
      rw [splitSegments_slash, ih next later]
    | cons c s again =>
      rw [List.mem_cons, not_or] at hs
      exact splitSegments_cons (Ne.symm hs.1) (again hs.2)

/-! ### Reading a path -/

lemma settled_readSegments (cs : List Char) : ∀ s ∈ readSegments .plain cs, Settled s := by
  obtain ⟨first, rest, cut, whole⟩ := splitSegments_plain cs
  rw [readSegments, cut]
  exact settled_walk (List.forall_mem_nil _) whole

lemma readSegments_ne_nil (cs : List Char) : readSegments .plain cs ≠ [] := by
  obtain ⟨first, rest, cut, -⟩ := splitSegments_plain cs
  rw [readSegments, cut]
  exact walk_ne_nil (List.cons_ne_nil _ _)

/-- A path that is read is read again. -/
lemma readSegments_text {rest : List (List Char)} (h : ∀ t ∈ s :: rest, Settled t) :
    readSegments .plain (s ++ (Path.rooted rest).text) = s :: rest := by
  obtain ⟨first, later⟩ := List.forall_mem_cons.1 h
  rw [readSegments, splitSegments_text first.whole fun t ht => (later t ht).whole,
    walk_of_settled h, List.nil_append]

/-- A dot in front of a path is passed over. -/
lemma readSegments_dot {rest : List (List Char)} (h : ∀ t ∈ s :: rest, Settled t) :
    readSegments .plain ('.' :: (Path.rooted (s :: rest)).text) = s :: rest := by
  have cut : splitSegments .plain ('.' :: (Path.rooted (s :: rest)).text) = ['.'] :: s :: rest :=
    splitSegments_text (s := ['.']) (by decide) fun t ht => (h t ht).whole
  have passed : arrive [] ['.'] false = [] := by decide
  rw [readSegments, cut, walk_cons, List.isEmpty_cons, passed, walk_of_settled h, List.nil_append]

lemma settled_segmentsAfterAuthority (cs : List Char) :
    ∀ s ∈ segmentsAfterAuthority .plain cs, Settled s := by
  cases cs with
  | nil => exact List.forall_mem_nil _
  | cons c rest => exact settled_readSegments _

lemma segmentsAfterAuthority_text (h : ∀ s ∈ segments, Settled s) :
    segmentsAfterAuthority .plain (Path.rooted segments).text = segments := by
  cases segments with
  | nil => rfl
  | cons s rest => exact readSegments_text h

end NestedTx.Url
