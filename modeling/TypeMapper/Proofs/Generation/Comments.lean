import TypeMapper.Proofs.Generation
/-!
# Comments in place of artifacts

What cannot be spelled leaves an artifact with a comment that says why. The comment quotes the
schema as it is: the types of the mapping and the text that is no name, no path or no type. So it is
a comment throughout only as long as these texts stay on its line: what follows a line break in one
of them is code, unless it happens to begin like a comment.

* `Text.lines`, `IsCommentLine`: the lines of a text, and those that hold no code.
* `Artifact.IsComment`: nothing in the file of an artifact is code.
* `Artifact.StandsIn`: an artifact that says why there is none, and what it quotes.
* `Batch.isComment_iff`: when such an artifact is a comment.
-/

namespace TypeMapper

/-! ## 1. Lines -/

/-- The lines of a text, which end at its line feeds. -/
def Text.lines (text : List Char) : List (List Char) := text.splitOn '\n'

/-- A line without code: a comment, or nothing; a carriage return in front of a line feed belongs to
the line end. -/
def IsCommentLine (line : List Char) : Prop := line = [] ∨ line = ['\r'] ∨ ['/', '/'] <+: line

instance : DecidablePred IsCommentLine := fun line =>
  inferInstanceAs (Decidable (line = [] ∨ line = ['\r'] ∨ ['/', '/'] <+: line))

namespace Text

variable {c : Char} {pre text : List Char}

theorem lines_append_line (text more : List Char) :
    lines (text ++ '\n' :: more) = lines text ++ lines more :=
  List.splitOnP_append_cons text more (beq_self_eq_true '\n')

theorem lines_cons (h : c ≠ '\n') (text : List Char) :
    lines (c :: text) = (lines text).modifyHead (c :: ·) := by
  rw [lines, List.splitOn, List.splitOnP_cons_eq_if_modifyHead, if_neg (by simpa using h)]
  rfl

/-- What stands in front of a text on its first line does not reach the other lines. -/
theorem tail_lines_append (h : '\n' ∉ pre) : (lines (pre ++ text)).tail = (lines text).tail := by
  induction pre with
  | nil => rfl
  | cons c pre ih =>
      rw [List.mem_cons, not_or] at h
      rw [List.cons_append, lines_cons (Ne.symm h.1), ← ih h.2]
      cases lines (pre ++ text) <;> rfl

/-- A text that begins like a comment is one on its first line. -/
theorem forall_lines_comment_iff : (∀ line ∈ lines ('/' :: '/' :: text), IsCommentLine line) ↔
    ∀ line ∈ (lines text).tail, IsCommentLine line := by
  have hslash : '/' ≠ '\n' := by decide
  rw [lines_cons hslash, lines_cons hslash]
  cases h : lines text with
  | nil => exact absurd h (List.splitOnP_ne_nil _ _)
  | cons first others =>
      have hfirst : IsCommentLine ('/' :: '/' :: first) := .inr (.inr ⟨first, rfl⟩)
      simp [hfirst]

end Text

/-! ## 2. Artifacts that say why there is none -/

namespace Artifact

/-- Nothing in the file of an artifact is code. -/
def IsComment (x : Artifact) : Prop := ∀ line ∈ Text.lines x.source.toList, IsCommentLine line

instance : DecidablePred IsComment := fun x =>
  inferInstanceAs (Decidable (∀ line ∈ Text.lines x.source.toList, IsCommentLine line))

variable {x : Artifact} {subject reason : String}

/-- **A comment stays one** exactly as long as each further line of what it says is one too. -/
theorem isComment_of_skipped (h : x.body = .skipped subject reason) :
    x.IsComment ↔
      ∀ line ∈ (Text.lines (subject ++ ": " ++ reason).toList).tail, IsCommentLine line := by
  -- the fixed texts are variables here: only what is said of them counts
  have htext : ∀ {header feed opening colon : String} {rest : List Char}, feed.toList = ['\n'] →
      opening.toList = '/' :: '/' :: rest →
      (header ++ feed ++ (opening ++ subject ++ colon ++ reason) ++ feed).toList =
        header.toList ++ '\n' :: ('/' :: '/' :: (rest ++ (subject ++ colon ++ reason).toList) ++
          '\n' :: []) := fun hfeed hopening => by
    simp only [String.toList_append, hfeed, hopening, List.append_assoc, List.cons_append,
      List.nil_append]
  have hsource : x.source.toList = headerLine.toList ++ '\n' :: ('/' :: '/' ::
      (" mapforge: skipped ".toList ++ (subject ++ ": " ++ reason).toList) ++ '\n' :: []) := by
    rw [source, h]
    exact htext rfl rfl
  have hheader : ∀ line ∈ Text.lines headerLine.toList, IsCommentLine line := by decide +kernel
  have hempty : ∀ line ∈ Text.lines [], IsCommentLine line := by decide
  have hprefix : '\n' ∉ " mapforge: skipped ".toList := by decide
  rw [IsComment, hsource, Text.lines_append_line, Text.lines_append_line, List.forall_mem_append,
    List.forall_mem_append, and_iff_right hheader, and_iff_left hempty,
    Text.forall_lines_comment_iff, Text.tail_lines_append hprefix]

/-- **An artifact that says why there is none**: `subject` is the pair of types of an accepted
mapping, or the name of a side artifact, and `e` names the text that cannot be spelled. -/
structure StandsIn (b : Batch) (c : Config) (x : Artifact) (subject : String) (e : SpellingError) :
    Prop where
  body : x.body = .skipped subject e.message
  subject : (∃ p ∈ b.accepted, subject = p.2.key.text) ∨ ∃ side ∈ c.sides, subject = side.1
  lexical : e.IsLexical

end Artifact

namespace Batch

variable {s : Schema} {c : Config}

/-- A side artifact that holds routines is there. -/
theorem isSkipped_of_mem_sides {side : String × (List Dispatch → ArtifactBody)} (h : side ∈ c.sides)
    (ds : List Dispatch) : (side.2 ds).isSkipped = false := by
  unfold Config.sides at h
  rcases List.mem_append.mp h with h | h <;> split at h <;> simp_all [ArtifactBody.isSkipped]

/-- An artifact of a run that holds nothing says why. -/
theorem exists_standsIn {xs : List Artifact} (h : (discover s c).artifacts c = .ok xs)
    {x : Artifact} (hx : x ∈ xs) (hskip : x.body.isSkipped = true) :
    ∃ subject e, x.StandsIn (discover s c) c subject e := by
  rcases artifacts_cases s c with ⟨modules, sides, hok, hmodules, hsides⟩ | ⟨n, herror, -⟩
  · obtain rfl := Except.ok.inj (h.symm.trans hok)
    rcases List.mem_append.mp hx with hx | hx
    · obtain ⟨p, hp, hrenders⟩ := exists_of_mem_right hmodules hx
      rcases hrenders.body with ⟨k, -, hbody⟩ | ⟨e, he, -, hbody⟩
      · rw [hbody] at hskip
        cases hskip
      · exact ⟨_, e, hbody, .inl ⟨p, hp, rfl⟩, he⟩
    · obtain ⟨side, hside, hrenders⟩ := exists_of_mem_right hsides hx
      rcases hrenders.body with ⟨ds, -, hbody⟩ | ⟨e, he, -, hbody⟩
      · rw [hbody, isSkipped_of_mem_sides hside] at hskip
        cases hskip
      · exact ⟨_, e, hbody, .inr ⟨side, hside, rfl⟩, he⟩
  · rw [herror] at h
    cases h

/-- **An artifact that says why there is none is a comment** exactly as long as each further line of
what it says begins like one, as it does if nothing that it quotes has a line break. -/
theorem isComment_iff {xs : List Artifact} (h : (discover s c).artifacts c = .ok xs) {x : Artifact}
    (hx : x ∈ xs) (hskip : x.body.isSkipped = true) :
    ∃ subject e, x.StandsIn (discover s c) c subject e ∧
      (x.IsComment ↔ ∀ line ∈ (Text.lines (subject ++ ": " ++ e.message).toList).tail,
        IsCommentLine line) ∧
      ('\n' ∉ subject.toList → '\n' ∉ e.message.toList → x.IsComment) := by
  obtain ⟨subject, e, hstands⟩ := exists_standsIn h hx hskip
  have hiff := Artifact.isComment_of_skipped hstands.body
  refine ⟨subject, e, hstands, hiff, fun hsubject hmessage => hiff.mpr ?_⟩
  have hno : '\n' ∉ (subject ++ ": " ++ e.message).toList := by
    simp [hsubject, hmessage]
  rw [← List.append_nil (subject ++ ": " ++ e.message).toList, Text.tail_lines_append hno]
  exact fun line hline => absurd hline List.not_mem_nil

/-- The artifacts of a run that hold nothing: their texts, and whether these are comments. -/
def skippedComments (s : Schema) (c : Config) : Option (List (String × Bool)) :=
  ((discover s c).artifacts c).toOption.map fun xs =>
    (xs.filter fun x => x.body.isSkipped).map fun x => (x.source, decide x.IsComment)

/-- The only artifact of a run that holds nothing. -/
theorem exists_of_skippedComments {text : String} {isComment : Bool}
    (h : skippedComments s c = some [(text, isComment)]) :
    ∃ xs x, (discover s c).artifacts c = .ok xs ∧ x ∈ xs ∧ x.body.isSkipped = true ∧
      x.source = text ∧ (x.IsComment ↔ isComment = true) := by
  obtain ⟨xs, hxs, hfields⟩ := Option.map_eq_some_iff.mp h
  obtain ⟨x, hx, hreport⟩ := List.mem_map.mp (hfields ▸ List.mem_cons_self)
  obtain ⟨hsource, hdecided⟩ := Prod.mk.inj hreport
  obtain ⟨hmem, hskip⟩ := List.mem_filter.mp hx
  refine ⟨xs, x, eq_ok_of_toOption hxs, hmem, hskip, hsource, ?_⟩
  rw [← hdecided, decide_eq_true_iff]

/-- Lines that have one text. -/
def textSchema (name : String) : Schema :=
  Schema.ofLists
    [lineSchema.type "shop::Line" [lineSchema.text name] (some "view::Line"),
      lineSchema.type "view::Line" [lineSchema.text name] none] []

/-- A name of two words on one line: the artifact of lines is a comment. -/
theorem isComment_of_words : ∃ xs x subject e,
    (discover (textSchema "two words") Config.standard).artifacts Config.standard = .ok xs ∧
    x ∈ xs ∧ x.body.isSkipped = true ∧
    x.StandsIn (discover (textSchema "two words") Config.standard) Config.standard subject e ∧
    (∀ line ∈ (Text.lines (subject ++ ": " ++ e.message).toList).tail, IsCommentLine line) ∧
    x.IsComment := by
  have hreport : skippedComments (textSchema "two words") Config.standard = some
      [(headerLine ++ "\n// mapforge: skipped shop::Line -> view::Line: "
        ++ "'two words' is not a valid identifier\n", true)] := by
    decide +kernel
  obtain ⟨xs, x, hxs, hx, hskip, -, hcomment⟩ := exists_of_skippedComments hreport
  obtain ⟨subject, e, hstands, hiff, -⟩ := isComment_iff hxs hx hskip
  exact ⟨xs, x, subject, e, hxs, hx, hskip, hstands, hiff.mp (hcomment.mpr rfl), hcomment.mpr rfl⟩

/-- A line break between the words of the name: the second word stands on a line of its own, which
is code. -/
theorem not_isComment_of_words : (textSchema "two\nwords").validate = .ok () ∧ ∃ xs x,
    (discover (textSchema "two\nwords") Config.standard).artifacts Config.standard = .ok xs ∧
      x ∈ xs ∧ x.body.isSkipped = true ∧
      x.source = headerLine ++ "\n// mapforge: skipped shop::Line -> view::Line: "
        ++ "'two\nwords' is not a valid identifier\n" ∧
      ¬ x.IsComment := by
  have hreport : skippedComments (textSchema "two\nwords") Config.standard = some
      [(headerLine ++ "\n// mapforge: skipped shop::Line -> view::Line: "
        ++ "'two\nwords' is not a valid identifier\n", false)] := by
    decide +kernel
  obtain ⟨xs, x, hxs, hx, hskip, hsource, hcomment⟩ := exists_of_skippedComments hreport
  refine ⟨ErrorTree.result_eq_ok_iff.mpr (by decide +kernel), xs, x, hxs, hx, hskip, hsource, ?_⟩
  exact fun h => Bool.false_ne_true (hcomment.mp h)

end Batch

end TypeMapper
