/-
# No line is lost

A stream falls apart at its line feeds into bodies and a tail (`Parted`), in one way only, and
its segments are the bodies with their line feeds and the tail unless that is empty.  A line feed
is a character of its own wherever it comes, so it makes no difference whether a stream is
decoded before or after it is cut (`Parted.decodeLossy`).  A line is its segment but for the line
ends behind it (`Shows`), and the window over the lines holds the last of them
(`kept_eq_lastOf`).
-/
import JobSupervision.Console.Lines
import JobSupervision.Proofs.Text.Utf8
import Mathlib.Data.List.Forall2
import Mathlib.Data.List.Induction

namespace JobSupervision.Console

open Text.Utf8 (decodeLossy encode)

/-! ### Parts -/

section Parts

variable {α : Type} {stop : α} {items : List α} {bodies : List (List α)} {tail : List α}

/-- Some items fall apart into bodies, each with a stop behind it, and a tail. -/
structure Parted (stop : α) (items : List α) (bodies : List (List α)) (tail : List α) : Prop where
  /-- Nothing is lost. -/
  whole : (bodies.map (· ++ [stop])).flatten ++ tail = items
  /-- No body goes on behind a stop. -/
  bodies : ∀ body ∈ bodies, stop ∉ body
  /-- The tail has no stop. -/
  tail : stop ∉ tail

lemma Parted.cons {body : List α} (hbody : stop ∉ body) (h : Parted stop items bodies tail) :
    Parted stop (body ++ stop :: items) (body :: bodies) tail :=
  ⟨by simp [← h.whole], List.forall_mem_cons.2 ⟨hbody, h.bodies⟩, h.tail⟩

lemma exists_parted (stop : α) (items : List α) :
    ∃ bodies tail, Parted stop items bodies tail := by
  induction items with
  | nil => exact ⟨[], [], rfl, by simp, by simp⟩
  | cons a items ih =>
    obtain ⟨bodies, tail, h⟩ := ih
    -- a stop is behind an empty body; any other item joins the body that follows it
    by_cases ha : stop = a
    · have hnil : stop ∉ ([] : List α) := by simp
      exact ⟨[] :: bodies, tail, ha ▸ h.cons hnil⟩
    cases bodies with
    | nil => exact ⟨[], a :: tail, by simp [← h.whole], by simp, by simp [ha, h.tail]⟩
    | cons body bodies =>
      obtain ⟨hbody, hbodies⟩ := List.forall_mem_cons.1 h.bodies
      exact ⟨(a :: body) :: bodies, tail, by simp [← h.whole],
        List.forall_mem_cons.2 ⟨by simp [ha, hbody], hbodies⟩, h.tail⟩

/-- There is one way to fall apart. -/
lemma Parted.splitOn [BEq α] [LawfulBEq α] (h : Parted stop items bodies tail) :
    items.splitOn stop = bodies ++ [tail] := by
  have hnone {part : List α} (hpart : stop ∉ part) : part.splitOnP (· == stop) = [part] :=
    List.splitOnP_eq_singleton fun a ha => beq_eq_false_iff_ne.2 (ne_of_mem_of_not_mem ha hpart)
  obtain ⟨rfl, hbodies, htail⟩ := h
  rw [List.splitOn]
  induction bodies with
  | nil => exact hnone htail
  | cons body bodies ih =>
    obtain ⟨hbody, hbodies⟩ := List.forall_mem_cons.1 hbodies
    rw [List.map_cons, List.flatten_cons, List.append_assoc, List.append_assoc,
      List.singleton_append, List.splitOnP_append_cons (p := (· == stop)) body _ (by simp),
      hnone hbody, ih hbodies]
    rfl

/-- What follows goes on with the tail. -/
lemma Parted.append {more tail' : List α} {bodies' : List (List α)}
    (h : Parted stop items bodies tail) (h' : Parted stop (tail ++ more) bodies' tail') :
    Parted stop (items ++ more) (bodies ++ bodies') tail' := by
  refine ⟨?_, fun body hbody => ?_, h'.tail⟩
  · rw [List.map_append, List.flatten_append, List.append_assoc, h'.whole, ← h.whole,
      List.append_assoc]
  · exact (List.mem_append.1 hbody).elim (h.bodies body) (h'.bodies body)

end Parts

/-! ### Segments -/

section Segments

variable {bytes : List UInt8} {bodies : List (List UInt8)} {tail : List UInt8}

lemma segments_of_not_mem (h : lineFeed ∉ tail) :
    segments tail = if tail = [] then [] else [tail] := by
  induction tail with
  | nil => rfl
  | cons b tail ih =>
    obtain ⟨hb, htail⟩ := not_or.1 (mt List.mem_cons.2 h)
    rw [segments_cons, ih htail, if_neg (List.cons_ne_nil b tail)]
    split_ifs with hempty
    · rw [hempty, cutAfter]
    · rw [cutAfter, if_neg (Ne.symm hb)]

lemma segments_append_feed {body : List UInt8} (h : lineFeed ∉ body) (rest : List UInt8) :
    segments (body ++ lineFeed :: rest) = (body ++ [lineFeed]) :: segments rest := by
  induction body with
  | nil =>
    rw [List.nil_append, segments_cons]
    cases segments rest <;> rfl
  | cons b body ih =>
    obtain ⟨hb, hbody⟩ := not_or.1 (mt List.mem_cons.2 h)
    rw [List.cons_append, segments_cons, ih hbody, cutAfter, if_neg (Ne.symm hb), List.cons_append]

lemma Parted.segments (h : Parted lineFeed bytes bodies tail) :
    segments bytes = bodies.map (· ++ [lineFeed]) ++ if tail = [] then [] else [tail] := by
  obtain ⟨rfl, hbodies, htail⟩ := h
  induction bodies with
  | nil => exact segments_of_not_mem htail
  | cons body bodies ih =>
    obtain ⟨hbody, hbodies⟩ := List.forall_mem_cons.1 hbodies
    rw [List.map_cons, List.flatten_cons, List.append_assoc, List.append_assoc,
      List.singleton_append, segments_append_feed hbody, ih hbodies, List.cons_append]

lemma isWhole_append_feed (body : List UInt8) : isWhole (body ++ [lineFeed]) = true := by
  simp [isWhole]

lemma isWhole_of_not_mem (h : lineFeed ∉ tail) : isWhole tail = false :=
  decide_eq_false fun hlast => h (List.mem_of_getLast? hlast)

lemma Parted.filter_isWhole (h : Parted lineFeed bytes bodies tail) :
    (Console.segments bytes).filter isWhole = bodies.map (· ++ [lineFeed]) := by
  have htail : (if tail = [] then [] else [tail]).filter isWhole = [] := by
    split_ifs <;> simp [isWhole_of_not_mem h.tail]
  rw [h.segments, List.filter_append, htail, List.append_nil]
  exact List.filter_eq_self.2 (by simp [isWhole_append_feed])

lemma Parted.filter_not_isWhole (h : Parted lineFeed bytes bodies tail) :
    (Console.segments bytes).filter (fun s => !isWhole s) = if tail = [] then [] else [tail] := by
  have htail : (if tail = [] then [] else [tail]).filter (fun s => !isWhole s) =
      if tail = [] then [] else [tail] := by
    split_ifs <;> simp [isWhole_of_not_mem h.tail]
  rw [h.segments, List.filter_append, htail]
  simp [isWhole_append_feed]

/-- The lines that are whole stay, and what follows goes on with the tail. -/
lemma Parted.wholeLines_append (h : Parted lineFeed bytes bodies tail) (more : List UInt8) :
    wholeLines (bytes ++ more) = wholeLines bytes ++ wholeLines (tail ++ more) := by
  obtain ⟨bodies', tail', h'⟩ := exists_parted lineFeed (tail ++ more)
  rw [wholeLines, wholeLines, wholeLines, (h.append h').filter_isWhole, h.filter_isWhole,
    h'.filter_isWhole, List.map_append, List.map_append]

lemma lines_eq_wholeLines_append (bytes : List UInt8) :
    lines bytes =
      wholeLines bytes ++ ((segments bytes).filter fun s => !isWhole s).map lineOf := by
  obtain ⟨bodies, tail, h⟩ := exists_parted lineFeed bytes
  rw [wholeLines, h.filter_isWhole, h.filter_not_isWhole, lines, h.segments, List.map_append]

end Segments

/-! ### Decoding -/

/-- Decoded before or after it is cut, a stream gives the same. -/
theorem Parted.decodeLossy {bytes : List UInt8} {bodies : List (List UInt8)} {tail : List UInt8}
    (h : Parted lineFeed bytes bodies tail) :
    Parted '\n' (decodeLossy bytes) (bodies.map decodeLossy) (decodeLossy tail) := by
  have hfree {part : List UInt8} (hpart : lineFeed ∉ part) : '\n' ∉ Text.Utf8.decodeLossy part :=
    mt (Text.Utf8.mem_of_mem_decodeLossy (by decide) (by decide)) hpart
  obtain ⟨rfl, hbodies, htail⟩ := h
  induction bodies with
  | nil => exact ⟨rfl, by simp, hfree htail⟩
  | cons body bodies ih =>
    obtain ⟨hbody, hbodies⟩ := List.forall_mem_cons.1 hbodies
    rw [List.map_cons, List.flatten_cons, List.append_assoc, List.append_assoc,
      List.singleton_append, Text.Utf8.decodeLossy_append_cons body _ (by decide)]
    exact (ih hbodies).cons (hfree hbody)

/-! ### Lines -/

/-- Whether a line is a segment, decoded by itself, without the line ends behind it. -/
def Shows (segment : List UInt8) (line : String) : Prop :=
  ∃ ends, decodeLossy segment = line.toList ++ ends ∧ (∀ c ∈ ends, c = '\n' ∨ c = '\r') ∧
    ∀ c ∈ line.toList.getLast?, c ≠ '\n' ∧ c ≠ '\r'

lemma trimEnd_append_of_endsLine {text ends : List Char} (hends : ∀ c ∈ ends, endsLine c = true)
    (hlast : ∀ c ∈ text.getLast?, endsLine c = false) : trimEnd (text ++ ends) = text := by
  have hdrop : text.reverse.dropWhile endsLine = text.reverse := by
    rw [← List.head?_reverse] at hlast
    cases htext : text.reverse with
    | nil => rfl
    | cons c cs => exact List.dropWhile_cons_of_neg (by simp [hlast c (by simp [htext])])
  rw [trimEnd, List.reverse_append,
    List.dropWhile_append_of_pos fun c hc => hends c (List.mem_reverse.1 hc), hdrop,
    List.reverse_reverse]

lemma shows_lineOf (segment : List UInt8) : Shows segment (lineOf segment) := by
  let text := decodeLossy segment
  have hends {c : Char} : endsLine c = true ↔ c = '\n' ∨ c = '\r' := by simp [endsLine]
  -- the line ends are what `trimEnd` takes off
  refine ⟨(text.reverse.takeWhile endsLine).reverse, ?_, fun c hc => ?_, fun c hc => ?_⟩
  · rw [lineOf, String.toList_ofList, trimEnd, ← List.reverse_append,
      List.takeWhile_append_dropWhile, List.reverse_reverse]
  · exact hends.1 (List.all_eq_true.1 List.all_takeWhile c (List.mem_reverse.1 hc))
  · rw [lineOf, String.toList_ofList, trimEnd, List.getLast?_reverse] at hc
    have hnot := List.head?_dropWhile_not endsLine text.reverse
    rw [Option.mem_def.1 hc] at hnot
    exact not_or.1 fun h => by simp [hends.2 h] at hnot

lemma Shows.eq_lineOf {segment : List UInt8} {line : String} (h : Shows segment line) :
    line = lineOf segment := by
  obtain ⟨ends, hsegment, hends, hlast⟩ := h
  have htrim : trimEnd (line.toList ++ ends) = line.toList :=
    trimEnd_append_of_endsLine (by simpa [endsLine] using hends) (by simpa [endsLine] using hlast)
  rw [lineOf, hsegment, htrim, String.ofList_toList]

/-- Some texts as they are printed, each with a line feed behind it. -/
def printed (texts : List String) : List UInt8 :=
  encode (texts.flatMap fun text => text.toList ++ ['\n'])

/-- Whether a text is one line: it has no line feed and does not end in a carriage return. -/
def IsLine (text : String) : Prop := '\n' ∉ text.toList ∧ text.toList.getLast? ≠ some '\r'

instance (text : String) : Decidable (IsLine text) := inferInstanceAs (Decidable (_ ∧ _))

lemma IsLine.lineOf {text : String} (h : IsLine text) :
    lineOf (encode text.toList ++ [lineFeed]) = text := by
  refine (Shows.eq_lineOf ⟨['\n'], ?_, by simp, fun c hc => ⟨?_, ?_⟩⟩).symm
  · rw [Text.Utf8.decodeLossy_append_cons _ _ (by decide), Text.Utf8.decodeLossy_encode]
    rfl
  · exact ne_of_mem_of_not_mem (List.mem_of_getLast? hc) h.1
  · exact fun hc' => h.2 (hc' ▸ hc)

lemma parted_printed {texts : List String} (h : ∀ text ∈ texts, IsLine text) :
    Parted lineFeed (printed texts) (texts.map fun text => encode text.toList) [] := by
  refine ⟨?_, fun body hbody => ?_, by simp⟩
  · have hfeed (text : List Char) : encode (text ++ ['\n']) = encode text ++ [lineFeed] := by
      rw [Text.Utf8.encode_append]
      rfl
    calc ((texts.map fun text => encode text.toList).map (· ++ [lineFeed])).flatten ++ []
      _ = texts.flatMap fun text => encode text.toList ++ [lineFeed] := by
          rw [List.append_nil, List.map_map, List.flatMap_def]
          rfl
      _ = texts.flatMap fun text => encode (text.toList ++ ['\n']) := by simp only [hfeed]
      _ = printed texts := List.flatMap_assoc.symm
  · obtain ⟨text, htext, rfl⟩ := List.mem_map.1 hbody
    exact mt (Text.Utf8.mem_of_mem_encode (by decide)) (h text htext).1

lemma lines_printed {texts : List String} (h : ∀ text ∈ texts, IsLine text) :
    lines (printed texts) = texts := by
  rw [lines, (parted_printed h).segments, if_pos rfl, List.append_nil, List.map_map, List.map_map]
  exact (List.map_congr_left fun text htext => (h text htext).lineOf).trans (List.map_id _)

/-! ### Lines of a text -/

/-- The lines of a text that has ended: what stands before each line feed, and what stands behind
the last one if there is anything, without the line ends at its end. -/
def textLines (text : List Char) : List String :=
  let parts := text.splitOn '\n'
  let pieces := if parts.getLast? = some [] then parts.dropLast else parts
  pieces.map fun piece => String.ofList (trimEnd piece)

lemma lineOf_append_feed (body : List UInt8) :
    lineOf (body ++ [lineFeed]) = String.ofList (trimEnd (decodeLossy body)) := by
  have htrim (text : List Char) : trimEnd (text ++ ['\n']) = trimEnd text := by
    simp [trimEnd, endsLine]
  rw [lineOf, Text.Utf8.decodeLossy_append_cons _ _ (by decide)]
  exact congrArg String.ofList (htrim _)

/-- The lines of a stream are those of its text. -/
lemma lines_eq_textLines (bytes : List UInt8) : lines bytes = textLines (decodeLossy bytes) := by
  obtain ⟨bodies, tail, h⟩ := exists_parted lineFeed bytes
  have hbodies : (bodies.map (· ++ [lineFeed])).map lineOf =
      (bodies.map decodeLossy).map fun piece => String.ofList (trimEnd piece) := by
    simp [lineOf_append_feed]
  rw [lines, h.segments, List.map_append, hbodies, textLines, h.decodeLossy.splitOn]
  simp only [List.getLast?_concat, List.dropLast_concat, Option.some.injEq,
    Text.Utf8.decodeLossy_eq_nil_iff]
  split_ifs <;> simp [lineOf]

/-! ### The window -/

/-- The window holds the last lines. -/
theorem kept_eq_lastOf (limit : Nat) (lines : List String) :
    kept limit lines = lastOf limit lines := by
  induction lines using List.reverseRecOn with
  | nil => simp [kept, lastOf]
  | append_singleton lines line ih =>
    rw [kept_concat, ih, keep, length_lastOf]
    -- nothing is kept at all, or the oldest line makes room, or there is room left
    split_ifs with hlimit hfull
    · simp [lastOf, hlimit]
    · have hdrop : lines.length + 1 - limit = lines.length - limit + 1 := by omega
      have hle : lines.length - limit + 1 ≤ lines.length := by omega
      rw [lastOf, lastOf, List.tail_drop, List.length_append, List.length_singleton, hdrop,
        List.drop_append_of_le_length hle]
    · have hall : lines.length - limit = 0 ∧ lines.length + 1 - limit = 0 := by omega
      rw [lastOf, lastOf, List.length_append, List.length_singleton, hall.1, hall.2, List.drop_zero,
        List.drop_zero]

/-- The window ends with the latest line and is as long as the limit and the lines allow. -/
lemma kept_suffix (limit : Nat) (lines : List String) :
    kept limit lines <:+ lines ∧ (kept limit lines).length = min limit lines.length := by
  rw [kept_eq_lastOf]
  exact ⟨List.drop_suffix _ _, length_lastOf limit lines⟩

/-! ### What is handed on and what is kept -/

/-- Whether the lines that were handed on are those of some bytes, and those that were kept the
last of them. -/
structure Drains (bytes : List UInt8) (limit : Nat) (handed kept : List String) : Prop where
  /-- There is a line for each segment that a line feed ends and one for what follows the last line
  feed, if anything does; each of them is decoded by itself. -/
  segments : ∃ bodies tail, bytes.splitOn lineFeed = bodies ++ [tail] ∧
    List.Forall₂ Shows (bodies.map (· ++ [lineFeed]) ++ if tail = [] then [] else [tail]) handed
  /-- Decoding everything first makes no difference. -/
  decoded : handed = textLines (decodeLossy bytes)
  /-- The latest lines are kept. -/
  latest : kept <:+ handed
  /-- As many are kept as the limit allows. -/
  length : kept.length = min limit handed.length

lemma drains (bytes : List UInt8) (limit : Nat) :
    Drains bytes limit (lines bytes) (kept limit (lines bytes)) := by
  obtain ⟨bodies, tail, h⟩ := exists_parted lineFeed bytes
  obtain ⟨hlatest, hlength⟩ := kept_suffix limit (lines bytes)
  refine ⟨⟨bodies, tail, h.splitOn, ?_⟩, lines_eq_textLines bytes, hlatest, hlength⟩
  rw [← h.segments, lines, List.forall₂_map_right_iff, List.forall₂_same]
  exact fun segment _ => shows_lineOf segment

end JobSupervision.Console
