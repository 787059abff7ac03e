import Overseer.Proofs.Child.Framing

/-! ## Lines within the limit

A stream whose lines are no longer than the limit is handed out line by line. The line feed counts to
the piece that it ends, so that of a line as long as the limit is a piece of its own: such a line is
followed by an empty text. -/

namespace Overseer.LineReader

variable {limit : Nat} {bytes l rest : Bytes} {ls : List Bytes}

/-! ### Lines -/

/-- The stream is the lines `ls`, each with a line feed behind it, and then `rest` without one. -/
structure IsLines (bytes : Bytes) (ls : List Bytes) (rest : Bytes) : Prop where
  joined : bytes = ls.flatMap (· ++ [newline]) ++ rest
  single : ∀ l ∈ ls, newline ∉ l
  single_rest : newline ∉ rest

/-- The texts of a line with a line feed: its own, and one more if there was no room for the line
    feed. -/
def lineTexts (limit : Nat) (l : Bytes) : List Text :=
  if l.length = limit then [pieceText l, []] else [pieceText l]

/-- The text of what stands behind the last line feed, if there is anything. -/
def restTexts (rest : Bytes) : List Text := if rest.isEmpty then [] else [pieceText rest]

theorem exists_isLines (bytes : Bytes) : ∃ ls rest, IsLines bytes ls rest := by
  induction bytes with
  | nil => exact ⟨[], [], rfl, nofun, nofun⟩
  | cons b bytes ih =>
    obtain ⟨ls, rest, rfl, hsingle, hrest⟩ := ih
    by_cases hb : b = newline
    · subst hb
      exact ⟨[] :: ls, rest, rfl, List.forall_mem_cons.2 ⟨nofun, hsingle⟩, hrest⟩
    cases ls with
    | nil => exact ⟨[], b :: rest, rfl, nofun, by simpa using ⟨Ne.symm hb, hrest⟩⟩
    | cons l ls =>
      obtain ⟨hl, hls⟩ := List.forall_mem_cons.1 hsingle
      exact ⟨(b :: l) :: ls, rest, rfl,
        List.forall_mem_cons.2 ⟨by simpa using ⟨Ne.symm hb, hl⟩, hls⟩, hrest⟩

theorem IsLines.splitOn_eq (h : IsLines bytes ls rest) : bytes.splitOn newline = ls ++ [rest] := by
  obtain ⟨rfl, single, single_rest⟩ := h
  induction ls with
  | nil => exact List.splitOn_eq_singleton single_rest
  | cons l ls ih =>
    obtain ⟨hl, hls⟩ := List.forall_mem_cons.1 single
    rw [List.flatMap_cons, List.append_assoc, List.append_assoc, List.singleton_append,
      List.splitOn_append_cons_self_of_not_mem hl, ih hls, List.cons_append]

/-- Every stream consists of lines in one way. -/
theorem existsUnique_isLines (bytes : Bytes) :
    ∃! lines : List Bytes × Bytes, IsLines bytes lines.1 lines.2 := by
  obtain ⟨ls, rest, h⟩ := exists_isLines bytes
  refine ⟨(ls, rest), h, fun lines h' => ?_⟩
  obtain ⟨hls, hrest⟩ := List.append_inj' (h'.splitOn_eq.symm.trans h.splitOn_eq) rfl
  exact Prod.ext hls (List.singleton_inj.1 hrest)

/-! ### Pieces of lines -/

/-- A line that leaves room for its line feed is one piece. -/
theorem cut_line (single : newline ∉ l) (room : l.length < limit) :
    cut limit [] (l ++ newline :: bytes) = (l ++ [newline]) :: cut limit [] bytes := by
  have hroom : ([] : Bytes).length + l.length < limit := by simpa using room
  rw [cut_append single hroom, List.nil_append]
  exact cut_of_ends (.inl rfl)

/-- A line as long as the limit is a piece, whatever follows it. -/
theorem cut_full (single : newline ∉ l) (full : l.length = limit) (hlimit : 0 < limit) :
    cut limit [] (l ++ bytes) = l :: cut limit [] bytes := by
  rcases l.eq_nil_or_concat with rfl | ⟨q, b, rfl⟩
  · exact absurd full (Nat.ne_of_lt hlimit)
  simp only [List.concat_eq_append, List.mem_append, List.mem_singleton, not_or,
    List.length_append, List.length_singleton] at single full
  have hroom : ([] : Bytes).length + q.length < limit := by
    rw [List.length_nil]
    omega
  rw [List.concat_eq_append, List.append_assoc, cut_append single.1 hroom, List.nil_append]
  exact cut_of_ends (.inr full.ge)

/-- What follows the last line feed is one piece. -/
theorem cut_rest (single : newline ∉ rest) (short : rest.length ≤ limit) (hlimit : 0 < limit) :
    cut limit [] rest = if rest.isEmpty then [] else [rest] := by
  rcases Nat.lt_or_eq_of_le short with room | full
  · have hroom : ([] : Bytes).length + rest.length < limit := by simpa using room
    have hcut : cut limit [] (rest ++ []) = cut limit rest [] := cut_append single hroom
    rw [List.append_nil] at hcut
    rw [hcut]
    rfl
  · have hcut : cut limit [] (rest ++ []) = rest :: cut limit [] [] :=
      cut_full single full hlimit
    have hne : rest.isEmpty = false := by
      rw [List.isEmpty_eq_false_iff, ← List.length_pos_iff]
      omega
    rw [List.append_nil] at hcut
    rw [hcut, hne]
    rfl

/-- A line feed is trimmed. -/
theorem pieceText_append_newline (single : newline ∉ l) :
    pieceText (l ++ [newline]) = pieceText l := by
  unfold pieceText
  rw [newline, Utf8.decode_append_newline single, Text.trim_append_blank (by decide)]

theorem texts_line (single : newline ∉ l) (short : l.length ≤ limit) (hlimit : 0 < limit) :
    texts limit (l ++ newline :: bytes) = lineTexts limit l ++ texts limit bytes := by
  unfold texts lineTexts
  rcases Nat.lt_or_eq_of_le short with room | full
  · rw [cut_line single room, if_neg (Nat.ne_of_lt room), List.map_cons,
      pieceText_append_newline single]
    rfl
  · have hfeed : cut limit [] (newline :: bytes) = [newline] :: cut limit [] bytes :=
      cut_of_ends (.inl rfl)
    rw [cut_full single full hlimit, hfeed, if_pos full]
    rfl

theorem texts_rest (single : newline ∉ rest) (short : rest.length ≤ limit) (hlimit : 0 < limit) :
    texts limit rest = restTexts rest := by
  unfold texts restTexts
  rw [cut_rest single short hlimit]
  cases rest <;> rfl

/-- The texts of a stream whose lines are no longer than the limit. -/
theorem IsLines.texts_eq (h : IsLines bytes ls rest) (short : ∀ l ∈ ls, l.length ≤ limit)
    (shortRest : rest.length ≤ limit) (hlimit : 0 < limit) :
    texts limit bytes = ls.flatMap (lineTexts limit) ++ restTexts rest := by
  obtain ⟨rfl, single, single_rest⟩ := h
  induction ls with
  | nil => exact texts_rest single_rest shortRest hlimit
  | cons l ls ih =>
    obtain ⟨hl, hls⟩ := List.forall_mem_cons.1 single
    obtain ⟨hshort, hshorts⟩ := List.forall_mem_cons.1 short
    rw [List.flatMap_cons, List.flatMap_cons, List.append_assoc, List.append_assoc,
      List.append_assoc, List.singleton_append, texts_line hl hshort hlimit, ih hshorts hls]

/-! ### One text for each line -/

theorem length_le_flatMap_lineTexts (limit : Nat) (ls : List Bytes) :
    ls.length ≤ (ls.flatMap (lineTexts limit)).length := by
  induction ls with
  | nil => exact Nat.le_refl _
  | cons l ls ih =>
    have hl : 1 ≤ (lineTexts limit l).length := by
      unfold lineTexts
      split <;> simp
    rw [List.flatMap_cons, List.length_append, List.length_cons]
    omega

/-- There is one text for each line exactly if no line is as long as the limit. -/
theorem flatMap_lineTexts_eq_iff :
    ls.flatMap (lineTexts limit) = ls.map pieceText ↔ ∀ l ∈ ls, l.length ≠ limit := by
  induction ls with
  | nil => exact iff_of_true rfl nofun
  | cons l ls ih =>
    rw [List.flatMap_cons, List.map_cons, List.forall_mem_cons]
    by_cases full : l.length = limit
    · have hl : lineTexts limit l = [pieceText l, []] := if_pos full
      refine iff_of_false (fun h => ?_) fun h => h.1 full
      have hlen := congrArg List.length h
      have hle := length_le_flatMap_lineTexts limit ls
      rw [hl] at hlen
      simp only [List.length_append, List.length_cons, List.length_nil, List.length_map] at hlen
      omega
    · have hl : lineTexts limit l = [pieceText l] := if_neg full
      rw [hl, List.singleton_append, List.cons.injEq, ih]
      exact and_congr_left' (iff_of_true rfl full)

/-! ### What a reader hands out -/

namespace Reading

variable {g : Reading}

/-- The texts that are handed out of a stream whose lines are no longer than the limit, however it
    arrives and whichever polls are given up: that of each line, with an empty one behind it if the
    line is as long as the limit. All of them were handed out when the end is reported, and a reader
    that is polled on gets there. So there is one text for each line exactly if no line that has a
    line feed is as long as the limit. -/
theorem texts_of_lines (run : Relation.ReflTransGen Step (start limit) g) (hlimit : 1 ≤ limit) :
    (∃! lines : List Bytes × Bytes, IsLines g.written lines.1 lines.2) ∧
    ∀ ls rest, IsLines g.written ls rest → (∀ l ∈ ls, l.length ≤ limit) → rest.length ≤ limit →
      ∃ ts, ts = ls.flatMap (lineTexts limit) ++ restTexts rest ∧
        g.pieces.map pieceText <+: ts ∧
        (g.reader.poll.1 = .ready (.ok none) → g.pieces.map pieceText = ts) ∧
        (g.reader.tail = .closed →
          ∃ left, HandsOut g.reader left ∧ g.pieces.map pieceText ++ left = ts) ∧
        (ts = ls.map pieceText ++ restTexts rest ↔ ∀ l ∈ ls, l.length ≠ limit) := by
  have sound := sound_of_run run
  rw [Nat.max_eq_left hlimit] at sound
  have hroom : g.reader.buffer.length < g.reader.limit := sound.limit_eq ▸ sound.room
  refine ⟨existsUnique_isLines g.written, fun ls rest stream short shortRest => ?_⟩
  have htexts := stream.texts_eq short shortRest hlimit
  refine ⟨_, rfl, ?_, fun hend => ?_, fun closed => ?_, ?_⟩
  · rw [← htexts]
    exact sound.isPrefix.map pieceText
  · rw [← htexts, (sound.poll_eq_none_iff.1 hend).2]
    rfl
  · refine ⟨_, (handsOut_iff_cut closed hroom).2 rfl, ?_⟩
    rw [← htexts, texts, sound.cut_written, List.map_append, sound.limit_eq]
  · rw [List.append_cancel_right_eq, flatMap_lineTexts_eq_iff]

/-- Lines of two bytes and one, and a rest of two, with a limit of two and a poll that is given up. -/
theorem texts_of_lines_full :
    let g : Reading := ⟨⟨2, [], .closed, [], true⟩, [97, 98, 10, 99, 10, 100, 101],
      [[97, 98], [10], [99, 10], [100, 101]]⟩
    let ls : List Bytes := [[97, 98], [99]]
    (Relation.ReflTransGen Step (start 2) g ∧ IsLines g.written ls [100, 101] ∧
      (∀ l ∈ ls, l.length ≤ 2) ∧ g.reader.poll.1 = .ready (.ok none)) ∧
      g.pieces.map pieceText = ["ab".toList, [], "c".toList, "de".toList] ∧
      g.pieces.map pieceText ≠ ls.map pieceText ++ restTexts [100, 101] := by
  intro g ls
  have run : Relation.ReflTransGen Step (start 2) g :=
    Relation.ReflTransGen.refl.tail (.deliver [97] rfl) |>.tail .poll
      |>.tail (.deliver [98, 10, 99, 10, 100, 101] rfl) |>.tail .poll |>.tail .poll |>.tail .poll
      |>.tail .poll |>.tail (.close rfl) |>.tail .poll
  have stream : IsLines g.written ls [100, 101] := ⟨rfl, by decide, by decide⟩
  have short : ∀ l ∈ ls, l.length ≤ 2 := by decide
  have hend : g.reader.poll.1 = .ready (.ok none) := rfl
  obtain ⟨-, hall⟩ := texts_of_lines run (by decide)
  obtain ⟨ts, hts, -, hdone, -, hone⟩ := hall ls [100, 101] stream short (by decide)
  have htexts := hdone hend
  refine ⟨⟨run, stream, short, hend⟩, htexts.trans (hts.trans (by decide)), fun h => ?_⟩
  exact absurd (hone.1 (htexts.symm.trans h)) (by decide)

end Reading

/-- A line of a child's output that is as long as the limit gives two texts. -/
theorem not_texts_of_lines_single :
    ¬ ∀ (limit : Nat) (bytes : Bytes) (ls : List Bytes) (rest : Bytes) (ts : List Text),
      1 ≤ limit → IsLines bytes ls rest → (∀ l ∈ ls, l.length ≤ limit) → rest.length ≤ limit →
      HandsOut ((ofLimit limit).deliver bytes).close ts → ts = ls.map pieceText ++ restTexts rest := by
  intro h
  have stream : IsLines (List.replicate standardLimit 97 ++ [newline])
      [List.replicate standardLimit 97] [] := by
    refine ⟨by simp, ?_, nofun⟩
    rw [List.forall_mem_singleton, List.mem_replicate]
    exact fun h => absurd h.2 (by decide)
  have short : ∀ l ∈ [List.replicate standardLimit (97 : UInt8)], l.length ≤ standardLimit := by
    simp
  have hlimit : 1 ≤ standardLimit := by decide
  have htexts := stream.texts_eq short (Nat.zero_le _) hlimit
  have hsingle := h _ _ _ _ _ hlimit stream short (Nat.zero_le _) ((handsOut_iff _ _ _).2 htexts.symm)
  rw [List.append_cancel_right_eq, flatMap_lineTexts_eq_iff] at hsingle
  exact hsingle _ List.mem_cons_self List.length_replicate

end Overseer.LineReader
