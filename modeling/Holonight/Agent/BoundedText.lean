import Holonight.Agent.NotificationBridge
import Holonight.Base.JsonObjects
import Holonight.Base.JsonRoundTrip
import Holonight.Base.Utf8

/-!
# Texts that are cut to a bound

Two texts of an agent reach D-Bus only up to a number of bytes: the body of a notification
(`truncateMessage`, 200) and the title hint of a session's descriptor (`registerSession`,
512). D-Bus takes only UTF-8, and both cuts are made by bytes.

- `collapsed` says what the loop of `truncateMessage` is for: white space as single spaces,
  none at the start. `cleanMessage_eq` shows that the loop keeps its first `maxLen` bytes,
  so that every result below is about `collapsed`.
- **A cut text is UTF-8 exactly when the cut is at a character boundary**, for the body at
  byte 197 of the collapsed message and for the title at byte 512.
- **The body is shortened only when needed exactly when the collapsed message is longer
  than the limit, or shorter than it and the message was not long.**
-/

namespace Holonight

namespace Agent

namespace NotificationBridge

/-! ## The collapsed message -/

/-- Newlines, carriage returns and tabs are spaces. -/
def asSpace (b : UInt8) : UInt8 := if b = 10 ∨ b = 13 ∨ b = 9 then 32 else b

/-- Of a run of spaces only the last one stays. -/
def squeezeSpaces : Bytes → Bytes
  | [] => []
  | b :: rest =>
    if b = 32 ∧ rest.head? = some 32 then squeezeSpaces rest else b :: squeezeSpaces rest

/-- What a notification shows of a message: white space as spaces, none at the start, and
one for each run. -/
def collapsed (message : Bytes) : Bytes :=
  squeezeSpaces ((message.map asSpace).dropWhile fun b => b == 32)

/-- The collapsed form of what follows: `skip` says that a space here is dropped, because the
text starts here or the last byte was a space. -/
def collapseFrom (skip : Bool) : Bytes → Bytes
  | [] => []
  | b :: rest =>
    if asSpace b = 32 then
      if skip then collapseFrom true rest else 32 :: collapseFrom true rest
    else b :: collapseFrom false rest

/-- The spaces after a space are dropped. -/
theorem squeezeSpaces_space (s : Bytes) :
    squeezeSpaces (32 :: s) = 32 :: squeezeSpaces (s.dropWhile fun b => b == 32) := by
  induction s with
  | nil => rfl
  | cons b s ih =>
    by_cases hb : b = 32
    · subst hb
      rw [squeezeSpaces, if_pos ⟨rfl, rfl⟩, ih, List.dropWhile_cons_of_pos (by simp)]
    · rw [squeezeSpaces, if_neg (by simp [hb]), List.dropWhile_cons_of_neg (by simpa using hb)]

theorem asSpace_of_ne {b : UInt8} (h : asSpace b ≠ 32) : asSpace b = b := by
  unfold asSpace at *
  split at h
  · exact absurd rfl h
  · rw [if_neg ‹_›]

/-- Both forms of `collapseFrom` in the words of `collapsed`. -/
theorem collapseFrom_eq (message : Bytes) :
    collapseFrom true message = collapsed message ∧
      collapseFrom false message = squeezeSpaces (message.map asSpace) := by
  induction message with
  | nil => exact ⟨rfl, rfl⟩
  | cons b rest ih =>
    by_cases hb : asSpace b = 32
    · constructor
      · rw [collapseFrom, if_pos hb, if_pos rfl, ih.1, collapsed, collapsed, List.map_cons,
          List.dropWhile_cons_of_pos (by simpa using hb)]
      · rw [collapseFrom, if_pos hb, if_neg (by decide), ih.1, List.map_cons, hb,
          squeezeSpaces_space, collapsed]
    · have hkept : squeezeSpaces (asSpace b :: rest.map asSpace)
          = b :: squeezeSpaces (rest.map asSpace) := by
        rw [squeezeSpaces, if_neg fun h => hb h.1, asSpace_of_ne hb]
      constructor
      · rw [collapseFrom, if_neg hb, ih.2, collapsed, List.map_cons,
          List.dropWhile_cons_of_neg (by simpa using hb), hkept]
      · rw [collapseFrom, if_neg hb, ih.2, List.map_cons, hkept]

/-! ## The loop -/

theorem asSpace_eq_space_iff {b : UInt8} :
    asSpace b = 32 ↔ b = 32 ∨ b = 10 ∨ b = 13 ∨ b = 9 := by
  unfold asSpace
  split
  · rename_i h
    exact iff_of_true rfl (Or.inr h)
  · rename_i h
    exact ⟨Or.inl, fun hb => hb.resolve_right h⟩

/-- From any state of the loop: it goes on with the collapsed form of the rest and stops at
`maxLen` bytes. -/
theorem cleanMessage_eq_take (maxLen : ℕ) (rest cleaned : Bytes) (lastWasSpace : Bool)
    (h : cleaned.length < maxLen) :
    cleanMessage maxLen cleaned lastWasSpace rest
      = (cleaned ++ collapseFrom (lastWasSpace || cleaned.isEmpty) rest).take maxLen := by
  induction rest generalizing cleaned lastWasSpace with
  | nil => rw [cleanMessage, collapseFrom, List.append_nil, List.take_of_length_le (by omega)]
  | cons b rest ih =>
    -- a byte that is kept either fills the text or leaves the loop in the same position
    have hkept : ∀ (c : UInt8) (last : Bool),
        (if maxLen ≤ (cleaned ++ [c]).length then cleaned ++ [c]
          else cleanMessage maxLen (cleaned ++ [c]) last rest)
          = (cleaned ++ c :: collapseFrom last rest).take maxLen := by
      intro c last
      rw [List.append_cons cleaned c (collapseFrom last rest)]
      split
      · rename_i hfull
        have hlen : (cleaned ++ [c]).length = maxLen := by
          rw [List.length_append, List.length_singleton] at hfull ⊢
          omega
        rw [← hlen, List.take_left]
      · rename_i hfull
        have hnonempty : (cleaned ++ [c]).isEmpty = false := by cases cleaned <;> rfl
        rw [ih (cleaned ++ [c]) last (by omega), hnonempty, Bool.or_false]
    by_cases hspace : asSpace b = 32
    · have hspace' := asSpace_eq_space_iff.mp hspace
      rw [cleanMessage, collapseFrom, if_pos hspace]
      simp only [decide_eq_true hspace', if_true]
      by_cases hskip : (lastWasSpace || cleaned.isEmpty) = true
      · have hnot : (!lastWasSpace && !cleaned.isEmpty) = false := by
          rw [← Bool.not_or, hskip]
          rfl
        simp only [hnot, Bool.false_eq_true, if_false]
        rw [if_pos hskip, if_neg (Nat.not_le.mpr h), ih cleaned lastWasSpace h, hskip]
      · have hput : (!lastWasSpace && !cleaned.isEmpty) = true := by
          rw [← Bool.not_or, Bool.eq_false_of_not_eq_true hskip]
          rfl
        simp only [hput, if_true]
        rw [if_neg hskip]
        exact hkept 32 true
    · have hspace' := fun h => hspace (asSpace_eq_space_iff.mpr h)
      rw [cleanMessage, collapseFrom, if_neg hspace]
      simp only [decide_eq_false hspace', Bool.false_eq_true, if_false]
      exact hkept b false

/-- The loop keeps the first bytes of the collapsed message. -/
theorem cleanMessage_eq {maxLen : ℕ} (h : 0 < maxLen) (message : Bytes) :
    cleanMessage maxLen [] false message = (collapsed message).take maxLen := by
  rw [cleanMessage_eq_take maxLen message [] false h, List.nil_append, ← (collapseFrom_eq message).1]
  rfl

/-- **What `truncateMessage` returns**, in terms of the collapsed message. -/
theorem truncateMessage_eq {maxLen : ℕ} (h : 3 ≤ maxLen) (message : Bytes) :
    truncateMessage message maxLen
      = if maxLen < message.length ∨ maxLen ≤ (collapsed message).length then
          (collapsed message).take (maxLen - 3) ++ "..."
        else collapsed message := by
  unfold truncateMessage
  split
  · rename_i hempty
    subst hempty
    rw [if_neg]
    · rfl
    · show ¬(maxLen < 0 ∨ maxLen ≤ 0)
      omega
  · simp only [cleanMessage_eq (show 0 < maxLen by omega)]
    have hlen : ((collapsed message).take maxLen).length
        = min maxLen (collapsed message).length := List.length_take
    by_cases hcut : maxLen < message.length ∨ maxLen ≤ (collapsed message).length
    · rw [if_pos hcut, if_pos (by omega)]
      congr 1
      split
      · rw [List.take_take, Nat.min_eq_left (by omega)]
      · rw [List.take_of_length_le (show (collapsed message).length ≤ maxLen by omega),
          List.take_of_length_le (show (collapsed message).length ≤ maxLen - 3 by omega)]
    · rw [if_neg hcut, if_neg (by omega)]
      exact List.take_of_length_le (by omega)

/-! ## Is the body UTF-8? -/

/-- White space is ASCII: from any state the collapsed form of the rest is accepted where the
rest is. -/
theorem foldlM_collapseFrom {rest : Bytes} {skip : Bool} {state : Utf8State}
    (h : rest.foldlM Utf8State.next state = some .start) :
    (collapseFrom skip rest).foldlM Utf8State.next state = some .start := by
  induction rest generalizing skip state with
  | nil => exact h
  | cons b rest ih =>
    obtain ⟨after, hafter, hrest⟩ := Option.bind_eq_some_iff.mp h
    by_cases hspace : asSpace b = 32
    · have hascii : b < 0x80 := by
        rcases asSpace_eq_space_iff.mp hspace with rfl | rfl | rfl | rfl <;> decide
      obtain ⟨rfl, rfl⟩ := Utf8State.next_ascii hascii hafter
      rw [collapseFrom, if_pos hspace]
      split
      · exact ih hrest
      · have hput : Utf8State.next .start 32 = some .start := rfl
        rw [List.foldlM_cons, hput]
        exact ih hrest
    · rw [collapseFrom, if_neg hspace]
      exact Option.bind_eq_some_iff.mpr ⟨after, hafter, ih hrest⟩

theorem validUtf8_collapsed {message : Bytes} (h : validUtf8 message = true) :
    validUtf8 (collapsed message) = true := by
  rw [← (collapseFrom_eq message).1, validUtf8_iff]
  exact foldlM_collapseFrom (validUtf8_iff.mp h)

/-- **The body of a notification is UTF-8 exactly when nothing is cut off or the cut, at byte
197 of the collapsed message, is between two characters.** -/
theorem validUtf8_truncateMessage_iff (message : Bytes) (h : validUtf8 message = true) :
    validUtf8 (truncateMessage message 200) = true ↔
      (message.length ≤ 200 ∧ (collapsed message).length < 200) ∨
        CharBoundary (collapsed message) 197 := by
  have hcollapsed := validUtf8_collapsed h
  rw [truncateMessage_eq (by omega)]
  split
  · rename_i hcut
    have hdots : ∀ b ∈ Bytes.ofString "...", b < 0x80 := by decide +kernel
    rw [validUtf8_append_ascii hdots (by decide), validUtf8_take_iff hcollapsed]
    exact ⟨Or.inr, fun hor => hor.resolve_left (by omega)⟩
  · rename_i hcut
    exact iff_of_true hcollapsed (Or.inl (by omega))

/-- A short message with a run of spaces. -/
theorem validUtf8_truncateMessage_ascii :
    validUtf8 "build  finished" = true ∧
      validUtf8 (truncateMessage "build  finished" 200) = true :=
  have hvalid : validUtf8 "build  finished" = true := by decide +kernel
  have hshort : (collapsed "build  finished").length < 200 := by decide +kernel
  ⟨hvalid, (validUtf8_truncateMessage_iff "build  finished" hvalid).mpr
    (Or.inl ⟨by decide +kernel, hshort⟩)⟩

/-- A dash at bytes 196 to 198 of a long message: the body ends in the middle of it. -/
theorem truncateMessage_splits_dash :
    ¬∀ message : Bytes, validUtf8 message = true →
      validUtf8 (truncateMessage message 200) = true := by
  intro h
  have hsplit := h (List.replicate 196 97 ++ Bytes.ofString "—" ++ List.replicate 8 97)
    (by decide +kernel)
  exact absurd hsplit (by decide +kernel)

/-! ## Is the body shortened only when needed? -/

theorem length_dots : (Bytes.ofString "...").length = 3 := by decide

/-- **A message is shortened only when needed, and then to a prefix with dots, exactly when
its collapsed form is longer than 200 bytes, or shorter and the message is not longer, or it
has 200 bytes of which the last three are the dots.** -/
theorem truncateMessage_as_needed_iff (message : Bytes) :
    (((collapsed message).length ≤ 200 → truncateMessage message 200 = collapsed message) ∧
      (200 < (collapsed message).length →
        (truncateMessage message 200).length ≤ 200 ∧
          ∃ shown, shown <+: collapsed message ∧
            truncateMessage message 200 = shown ++ Bytes.ofString "...")) ↔
      200 < (collapsed message).length ∨
        (message.length ≤ 200 ∧ (collapsed message).length < 200) ∨
        ((collapsed message).length = 200 ∧ (collapsed message).drop 197 = "...") := by
  have heq := @truncateMessage_eq 200 (by omega) message
  by_cases hlong : 200 < (collapsed message).length
  · rw [if_pos (Or.inr (by omega))] at heq
    refine iff_of_true ⟨fun hshort => absurd hlong (by omega), fun _ => ⟨?_, ?_⟩⟩ (Or.inl hlong)
    · rw [heq, List.length_append, List.length_take, length_dots]
      omega
    · exact ⟨(collapsed message).take 197, List.take_prefix 197 _, heq⟩
  · -- nothing may be cut: what is asked is that the result is the collapsed message
    have hresult : ∀ p : Prop, ((collapsed message).length ≤ 200 →
        truncateMessage message 200 = collapsed message) ∧ (200 < (collapsed message).length → p) ↔
        truncateMessage message 200 = collapsed message :=
      fun p => ⟨fun h => h.1 (by omega), fun h => ⟨fun _ => h, fun h => absurd h hlong⟩⟩
    rw [hresult, heq]
    by_cases hcut : 200 < message.length ∨ 200 ≤ (collapsed message).length
    · rw [if_pos hcut]
      constructor
      · intro hsame
        have hlen := congrArg List.length hsame
        rw [List.length_append, List.length_take, length_dots] at hlen
        refine Or.inr (Or.inr ⟨by omega, ?_⟩)
        have hsplit := List.take_append_drop 197 (collapsed message)
        exact (List.append_cancel_left (hsplit.trans hsame.symm)).symm ▸ rfl
      · rintro (h | h | ⟨-, hdots⟩)
        · exact absurd h hlong
        · omega
        · rw [← hdots]
          exact List.take_append_drop 197 (collapsed message)
    · rw [if_neg hcut]
      exact iff_of_true rfl (Or.inr (Or.inl (by omega)))

/-- A message of 200 letters is cut although it fits. -/
theorem truncateMessage_cuts_full :
    ¬∀ message : Bytes, (collapsed message).length ≤ 200 →
      truncateMessage message 200 = collapsed message := by
  intro h
  have hfull := h (List.replicate 200 97) (by decide +kernel)
  exact absurd hfull (by decide +kernel)

end NotificationBridge

/-! ## Is the title hint UTF-8? -/

namespace SessionRegistry

/-- What a title hint should be of the title of the terminal. -/
structure BoundedTitle (hint title : Bytes) : Prop where
  utf8 : validUtf8 hint = true
  isPrefix : hint <+: title
  bounded : hint.length ≤ maximumActivationTitleBytes
  whole : title.length ≤ maximumActivationTitleBytes → hint = title

theorem metadataString_of_field {metadata : Json} {key s : Bytes}
    (h : metadata.field key = some (.str s)) : metadataString metadata key = some s := by
  cases metadata with
  | obj fields =>
    have hlookup : fields.lookup key = some (.str s) := h
    simp only [metadataString, hlookup]
  | _ => cases h

/-- A string of a parsed document is UTF-8. -/
theorem validUtf8_field {lib : CppLib} (J : JsonLibrary lib) {text key s : Bytes}
    {metadata : Json} (hparse : J.parse text = .ok metadata)
    (h : metadata.field key = some (.str s)) : validUtf8 s = true := by
  have hutf8 := J.utf8_parse hparse
  cases metadata with
  | obj fields =>
    have hmem : (key, Json.str s) ∈ fields := Json.mem_of_lookup h
    exact (Json.utf8Fields_iff.mp hutf8 _ hmem).2
  | _ => cases h

/-- The hint of a registration whose process could be read. -/
theorem registeredActivation_of_title {metadata : Json} {title : Bytes} {lineage : List UInt32}
    (htitle : metadata.field "terminal_title" = some (.str title)) (hlineage : lineage ≠ []) :
    registeredActivation lineage metadata
      = some { processLineage := lineage, titleHint := title.take 512 } := by
  unfold registeredActivation
  rw [metadataString_of_field htitle]
  exact if_pos (by simpa [ActivationDescriptor.valid] using hlineage)

/-- A cut of a UTF-8 title is what it should be exactly when no character is split. -/
theorem boundedTitle_take_iff {title : Bytes} (h : validUtf8 title = true) :
    BoundedTitle (title.take 512) title ↔ CharBoundary title 512 := by
  rw [← validUtf8_take_iff h]
  constructor
  · exact BoundedTitle.utf8
  · intro hutf8
    exact
      { utf8 := hutf8
        isPrefix := List.take_prefix 512 title
        bounded := List.length_take_le 512 title
        whole := fun hshort => List.take_of_length_le hshort }

/-- **The title hint that `registerSession` stores is UTF-8, a prefix of the title, within the
bound, and the title itself where that is within it, exactly when the title has no character
across byte 512.** -/
theorem registerSession_titleHint_iff {lib : CppLib} (J : JsonLibrary lib)
    (registry : SessionRegistry) (workingDirectory provider sessionId cwd : Bytes) (pid : UInt32)
    (now : TimePoint) (text title : Bytes) (metadata : Json) (lineage : List UInt32)
    (hparse : J.parse text = .ok metadata)
    (htitle : metadata.field "terminal_title" = some (.str title)) (hlineage : lineage ≠ []) :
    (∃ session descriptor,
      (registry.registerSession workingDirectory provider sessionId pid cwd metadata lineage
        now).find (assignedId provider sessionId pid) = some session ∧
      session.activation = some descriptor ∧ BoundedTitle descriptor.titleHint title) ↔
      CharBoundary title 512 := by
  rw [← boundedTitle_take_iff (validUtf8_field J hparse htitle), registerSession,
    UnorderedMap.find_insertOrAssign_self, registeredActivation_of_title htitle hlineage]
  constructor
  · rintro ⟨session, descriptor, hfound, hactivation, htitle⟩
    cases hfound
    cases hactivation
    exact htitle
  · exact fun htitle => ⟨_, _, rfl, rfl, htitle⟩

/-- Every title can be sent. -/
theorem exists_title_text {lib : CppLib} (J : JsonLibrary lib) {title : Bytes}
    (h : validUtf8 title = true) :
    ∃ text metadata, J.parse text = .ok metadata ∧
      metadata.field "terminal_title" = some (.str title) := by
  have hkey : validUtf8 "terminal_title" = true := by decide +kernel
  obtain ⟨text, -, hparse⟩ :=
    Json.exists_text_of_returns J (Json.returns_ofValues_str hkey h)
  exact ⟨text, _, hparse, Json.field_ofValues (by simp) List.mem_cons_self⟩

/-- A title with a separator, as the launcher sends it. -/
theorem registerSession_keeps_short_title :
    ∃ text metadata session descriptor,
      JsonLibrary.integral.parse text = .ok metadata ∧
      metadata.field "terminal_title" = some (.str "codex · repo") ∧
      (registerSession .empty "/" "codex" "codex-30" 30 "/repo" metadata [30, 20, 1] 0).find
        (assignedId "codex" "codex-30" 30) = some session ∧
      session.activation = some descriptor ∧
      BoundedTitle descriptor.titleHint "codex · repo" := by
  have hutf8 : validUtf8 "codex · repo" = true := by decide +kernel
  obtain ⟨text, metadata, hparse, htitle⟩ := exists_title_text JsonLibrary.integral hutf8
  obtain ⟨session, descriptor, h⟩ :=
    (registerSession_titleHint_iff JsonLibrary.integral .empty "/" "codex" "codex-30" "/repo" 30 0
      text "codex · repo" metadata [30, 20, 1] hparse htitle (by simp)).mpr
      (charBoundary_of_length_le (by decide +kernel))
  exact ⟨text, metadata, session, descriptor, hparse, htitle, h⟩

/-- 511 letters and the separator: the hint ends after its first byte. -/
theorem registerSession_splits_separator :
    ¬∀ (text title : Bytes) (metadata : Json) (lineage : List UInt32),
      JsonLibrary.integral.parse text = .ok metadata →
      metadata.field "terminal_title" = some (.str title) → lineage ≠ [] →
      ∃ session descriptor,
        (registerSession .empty "/" "codex" "codex-30" 30 "/repo" metadata lineage 0).find
          (assignedId "codex" "codex-30" 30) = some session ∧
        session.activation = some descriptor ∧ BoundedTitle descriptor.titleHint title := by
  intro h
  let title : Bytes := List.replicate 511 120 ++ Bytes.ofString "·"
  have hutf8 : validUtf8 title = true := by decide +kernel
  obtain ⟨text, metadata, hparse, htitle⟩ := exists_title_text JsonLibrary.integral hutf8
  obtain ⟨session, descriptor, hfound, hactivation, hbounded⟩ :=
    h text title metadata [30, 20, 1] hparse htitle (by simp)
  rw [registerSession, UnorderedMap.find_insertOrAssign_self,
    registeredActivation_of_title htitle (by simp)] at hfound
  cases hfound
  cases hactivation
  exact absurd ((boundedTitle_take_iff hutf8).mp hbounded) (by decide +kernel)

end SessionRegistry

end Agent

end Holonight
