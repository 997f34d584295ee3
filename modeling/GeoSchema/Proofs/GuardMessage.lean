import GeoSchema.Proofs.EntryPoints
import GeoSchema.Proofs.Leaves

/-!
# The message of a guard

A guard tells in one message what decoding tells line by line. The message comes from a template, into which
the name of the schema is put first and the issues last. So the name is searched for the placeholder of the
issues, and it stands in the message as it is exactly if it does not have that placeholder in it. The text of
the issues is not searched at all.
-/

namespace GeoSchema

/-! ## Filling a placeholder -/

namespace Text

variable {pattern filling s t : List Char} {c : Char} {skip : Nat}

theorem replaceFrom_skip (passed rest : List Char) :
    replaceFrom pattern filling passed.length (passed ++ rest) = replaceFrom pattern filling 0 rest := by
  induction passed with
  | nil => rfl
  | cons c passed ih => rw [List.length_cons, List.cons_append, replaceFrom, ih]

theorem replaceFrom_pattern (hne : pattern ≠ []) (filling rest : List Char) :
    replaceFrom pattern filling 0 (pattern ++ rest) = filling ++ replaceFrom pattern filling 0 rest := by
  obtain ⟨c, others, rfl⟩ := List.exists_cons_of_ne_nil hne
  have hopens : (c :: others).isPrefixOf (c :: (others ++ rest)) = true :=
    List.isPrefixOf_iff_prefix.mpr (List.prefix_append _ _)
  rw [List.cons_append, replaceFrom, if_pos hopens, List.length_cons, Nat.add_sub_cancel, replaceFrom_skip]

theorem replaceFrom_of_not_infix (h : ¬ pattern <:+: s) : replaceFrom pattern filling 0 s = s := by
  induction s with
  | nil => rfl
  | cons c rest ih =>
    rw [List.infix_cons_iff, not_or] at h
    rw [replaceFrom, if_neg (mt List.isPrefixOf_iff_prefix.mp h.1), ih h.2]

theorem prefix_append_cons_iff (h : c ∉ pattern) : pattern <+: s ++ c :: t ↔ pattern <+: s := by
  constructor
  · intro hprefix
    rcases List.prefix_or_prefix_of_prefix hprefix (List.prefix_append s (c :: t)) with hwithin | hbeyond
    · exact hwithin
    · obtain ⟨rest, rfl⟩ := hbeyond
      rw [List.prefix_append_right_inj] at hprefix
      cases rest with
      | nil => exact (List.append_nil s).symm ▸ List.prefix_rfl
      | cons d rest =>
        obtain ⟨rfl, -⟩ := List.cons_prefix_cons.mp hprefix
        exact absurd (List.mem_append_right s List.mem_cons_self) h
  · exact fun hprefix => hprefix.trans (List.prefix_append _ _)

theorem replaceFrom_append_cons (h : c ∉ pattern) (hskip : skip ≤ s.length) :
    replaceFrom pattern filling skip (s ++ c :: t) =
      replaceFrom pattern filling skip s ++ replaceFrom pattern filling 0 (c :: t) := by
  induction s generalizing skip with
  | nil =>
    obtain rfl := Nat.le_zero.mp hskip
    rfl
  | cons d rest ih =>
    cases skip with
    | succ skip => exact ih (Nat.le_of_succ_le_succ hskip)
    | zero =>
      have hopens : pattern.isPrefixOf (d :: (rest ++ c :: t)) = pattern.isPrefixOf (d :: rest) := by
        rw [Bool.eq_iff_iff, List.isPrefixOf_iff_prefix, List.isPrefixOf_iff_prefix, ← List.cons_append,
          prefix_append_cons_iff h]
      rw [List.cons_append, replaceFrom, replaceFrom, hopens]
      split
      · rename_i hprefix
        have hlen := (List.isPrefixOf_iff_prefix.mp hprefix).length_le
        rw [List.length_cons] at hlen
        rw [ih (by omega), List.append_assoc]
      · rw [ih (Nat.zero_le _), List.cons_append]

theorem replaceFrom_append_of_not_mem (h : c ∉ s) (t : List Char) :
    replaceFrom (c :: pattern) filling 0 (s ++ t) = s ++ replaceFrom (c :: pattern) filling 0 t := by
  induction s with
  | nil => rfl
  | cons d rest ih =>
    rw [List.mem_cons, not_or] at h
    have hopens : ¬ (c :: pattern).isPrefixOf (d :: (rest ++ t)) = true := by
      rw [List.isPrefixOf_iff_prefix, List.cons_prefix_cons]
      exact fun hsame => h.1 hsame.1
    rw [List.cons_append, replaceFrom, if_neg hopens, ih h.2, List.cons_append]

theorem length_le_length_replaceFrom (hne : pattern ≠ []) (h : pattern.length ≤ filling.length)
    (skip : Nat) (s : List Char) : s.length ≤ (replaceFrom pattern filling skip s).length + skip := by
  have hpos : 0 < pattern.length := List.length_pos_iff.mpr hne
  induction s generalizing skip with
  | nil => exact Nat.zero_le _
  | cons c rest ih =>
    cases skip with
    | succ skip =>
      have hrest := ih skip
      rw [replaceFrom, List.length_cons]
      omega
    | zero =>
      rw [replaceFrom]
      split
      · have hrest := ih (pattern.length - 1)
        rw [List.length_append, List.length_cons]
        omega
      · have hrest := ih 0
        rw [List.length_cons, List.length_cons]
        omega

theorem length_lt_length_replaceFrom (hne : pattern ≠ []) (h : pattern.length < filling.length)
    (hin : pattern <:+: s) : s.length < (replaceFrom pattern filling 0 s).length := by
  induction s with
  | nil => exact absurd (List.infix_nil.mp hin) hne
  | cons c rest ih =>
    rw [replaceFrom]
    split
    · have hrest := length_le_length_replaceFrom hne h.le (pattern.length - 1) rest
      have hpos : 0 < pattern.length := List.length_pos_iff.mpr hne
      rw [List.length_append, List.length_cons]
      omega
    · rename_i hopens
      rw [List.isPrefixOf_iff_prefix] at hopens
      have hrest := ih ((List.infix_cons_iff.mp hin).resolve_left hopens)
      rw [List.length_cons, List.length_cons]
      omega

theorem replaceAll_eq_self_iff {mark text name : String} (hne : mark.toList ≠ [])
    (h : mark.toList.length < text.toList.length) :
    replaceAll mark text name = name ↔ ¬ mark.toList <:+: name.toList := by
  rw [replaceAll, ← String.toList_inj, String.toList_ofList]
  constructor
  · intro hsame hin
    have hlonger := length_lt_length_replaceFrom hne h hin
    rw [hsame] at hlonger
    exact lt_irrefl _ hlonger
  · exact replaceFrom_of_not_infix

end Text

open Text

/-! ## The template -/

namespace GuardError

theorem replaceAll_expectedMark (name : String) :
    replaceAll expectedMark name template = "Invalid " ++ name ++ ": " ++ detailsMark := by
  rw [← String.toList_inj, replaceAll, String.toList_ofList]
  have htemplate : template.toList =
      "Invalid ".toList ++ (expectedMark.toList ++ (": " ++ detailsMark).toList) := by decide +kernel
  have hmark : expectedMark.toList = '\x7b' :: "expected\x7d".toList := by decide +kernel
  have hrest : ¬ expectedMark.toList <:+: (": " ++ detailsMark).toList := by decide +kernel
  calc replaceFrom expectedMark.toList name.toList 0 template.toList
      = "Invalid ".toList ++
          replaceFrom expectedMark.toList name.toList 0
            (expectedMark.toList ++ (": " ++ detailsMark).toList) := by
        rw [htemplate, hmark, replaceFrom_append_of_not_mem (by decide +kernel)]
    _ = "Invalid ".toList ++ (name.toList ++ (": " ++ detailsMark).toList) := by
        rw [replaceFrom_pattern (by decide +kernel), replaceFrom_of_not_infix hrest]
    _ = ("Invalid " ++ name ++ ": " ++ detailsMark).toList := by
        simp only [String.toList_append, List.append_assoc]

/-- The placeholder of the details may stand within the name. -/
theorem message_eq (e : GuardError) :
    e.message = "Invalid " ++ replaceAll detailsMark e.details e.expected ++ ": " ++ e.details := by
  rw [message, replaceAll_expectedMark, ← String.toList_inj, replaceAll, replaceAll, String.toList_ofList]
  have hmark : detailsMark.toList = '\x7b' :: "details\x7d".toList := by decide +kernel
  have hseam : ": ".toList = ':' :: " ".toList := by decide +kernel
  have hdetails : replaceFrom detailsMark.toList e.details.toList 0 (": ".toList ++ detailsMark.toList) =
      ": ".toList ++ e.details.toList := by
    have hwhole := replaceFrom_pattern (show detailsMark.toList ≠ [] by decide +kernel) e.details.toList []
    rw [List.append_nil, replaceFrom, List.append_nil] at hwhole
    rw [hmark, replaceFrom_append_of_not_mem (by decide +kernel), ← hmark, hwhole]
  have hname : replaceFrom detailsMark.toList e.details.toList 0
      (e.expected.toList ++ (": ".toList ++ detailsMark.toList)) =
      replaceFrom detailsMark.toList e.details.toList 0 e.expected.toList ++
        (": ".toList ++ e.details.toList) := by
    rw [← hdetails, hseam, List.cons_append, replaceFrom_append_cons (by decide +kernel) (Nat.zero_le _)]
  calc replaceFrom detailsMark.toList e.details.toList 0
        ("Invalid " ++ e.expected ++ ": " ++ detailsMark).toList
      = "Invalid ".toList ++ replaceFrom detailsMark.toList e.details.toList 0
          (e.expected.toList ++ (": ".toList ++ detailsMark.toList)) := by
        simp only [String.toList_append, List.append_assoc]
        rw [hmark, replaceFrom_append_of_not_mem (by decide +kernel)]
    _ = _ := by
        rw [hname]
        simp only [String.toList_append, String.toList_ofList, List.append_assoc]

theorem message_tells_name_iff {e : GuardError} (h : detailsMark.length < e.details.length) :
    e.message = "Invalid " ++ e.expected ++ ": " ++ e.details ↔
      ¬ detailsMark.toList <:+: e.expected.toList := by
  rw [message_eq, String.append_left_inj, String.append_left_inj, String.append_right_inj]
  exact replaceAll_eq_self_iff (by decide +kernel) h

end GuardError

namespace Schema

open Issue GuardError

variable {s : Schema} {document : Value}

/-! ## What a guard tells -/

theorem length_detailsMark_lt (h : s.check document [] false ≠ []) :
    detailsMark.length < ("; ".intercalate (messages (s.check document [] false))).length := by
  obtain ⟨leaf, others, hleaves⟩ := List.exists_cons_of_ne_nil (leavesOf_ne_nil h)
  rw [messages, hleaves, List.map_cons]
  have hmark : detailsMark.length < "Invalid value".length := by decide +kernel
  exact (hmark.trans (length_lt_length_message leaf)).trans_le (length_le_length_intercalate _ _ _)

/-- A guard retells the messages of decoding wherever the placeholder of the details stands. -/
theorem guard_retells_decode (h : s.accepts document = false) :
    ∃ rejection e, s.decode document = .error rejection ∧ s.guardField document = .error e ∧
      let told := messages rejection.issues
      let details := "; ".intercalate told
      told ≠ [] ∧ errorText rejection.issues = "\n".intercalate told ∧
      e.message = "Invalid " ++ replaceAll detailsMark details s.name ++ ": " ++ details ∧
      (e.message = "Invalid " ++ s.name ++ ": " ++ details ↔
        ¬ detailsMark.toList <:+: s.name.toList) := by
  have hne : s.check document [] false ≠ [] := (check_ne_nil_iff [] false).mpr h
  exact ⟨_, _, decode_of_refused h, guardField_of_refused h, messages_ne_nil hne,
    (errorText_of_ne_nil hne).1, message_eq _, message_tells_name_iff (length_detailsMark_lt hne)⟩

theorem guard_retells_decode_with_placeholders :
    let s := Schema.dictionary (.primitive .text) (.primitive .number) (some "\x7bexpected\x7d")
    let document := Value.dict [(.text "\x7bdetails\x7d", .null)]
    s.accepts document = false ∧ ∃ e, s.guardField document = .error e ∧
      e.message =
        "Invalid \x7bexpected\x7d: Invalid value None supplied to \x7bdetails\x7d: expected number" := by
  intro s document
  have hrefused : s.accepts document = false := by decide +kernel
  obtain ⟨rejection, e, hdecode, hguard, -, -, -, hmessage⟩ := guard_retells_decode hrefused
  have hissues : rejection.issues = s.check document [] false := by
    rw [decode_of_refused hrefused] at hdecode
    cases hdecode
    rfl
  have hplain : ¬ detailsMark.toList <:+: s.name.toList := by decide +kernel
  refine ⟨hrefused, e, hguard, (hmessage.mpr hplain).trans ?_⟩
  rw [hissues]
  decide +kernel

/-- The placeholder of the details for a name. -/
theorem message_of_details_placeholder :
    let s := Schema.literal (.text "\x7bdetails\x7d") none
    let details := "; ".intercalate (messages (s.check (.int 1) [] false))
    ∃ e, s.guardField (.int 1) = .error e ∧
      details = "Invalid value 1 supplied to <root>: expected \"\x7bdetails\x7d\"" ∧
      e.message = "Invalid \"" ++ details ++ "\": " ++ details ∧
      e.message ≠ "Invalid " ++ s.name ++ ": " ++ details := by
  intro s details
  exact ⟨_, rfl, by decide +kernel⟩

end Schema

end GeoSchema
