import Marty.Lib.BTree
import Marty.Lib.Checked
import Marty.Lib.Text
import Mathlib.Data.Nat.Digits.Lemmas
import Mathlib.Data.String.Basic

/-!
# Data groups of a passport

The data groups of a physical passport are submitted under names such as `DG1`, and signed under
their numbers.  The digits of a name are those of any script; two names can denote one number,
and the group of the first is then no longer there.

## Main definitions

* `validDataGroups` — the data groups that the request contract accepts.
* `numberedDataGroups` — the data groups by their numbers.
* `DataGroupsKept` — nothing is lost on the way.
* `plainDigits` — the digits of a name, without the zeros in front.
-/

namespace Marty.Issuance.Passport

open Lib Lib.Checked

/-! ## Digits -/

/-- The zeros of the decimal digits, each before the other nine. -/
def decimalZeroes : List Nat :=
  [0x30, 0x660, 0x6f0, 0x7c0, 0x966, 0x9e6, 0xa66, 0xae6, 0xb66, 0xbe6, 0xc66, 0xce6, 0xd66,
    0xde6, 0xe50, 0xed0, 0xf20, 0x1040, 0x1090, 0x17e0, 0x1810, 0x1946, 0x19d0, 0x1a80, 0x1a90,
    0x1b50, 0x1bb0, 0x1c40, 0x1c50, 0xa620, 0xa8d0, 0xa900, 0xa9d0, 0xa9f0, 0xaa50, 0xabf0, 0xff10,
    0x104a0, 0x10d30, 0x11066, 0x110f0, 0x11136, 0x111d0, 0x112f0, 0x11450, 0x114d0, 0x11650,
    0x116c0, 0x11730, 0x118e0, 0x11950, 0x11c50, 0x11d50, 0x11da0, 0x11f50, 0x16a60, 0x16ac0,
    0x16b50, 0x1d7ce, 0x1d7d8, 0x1d7e2, 0x1d7ec, 0x1d7f6, 0x1e140, 0x1e2f0, 0x1e4f0, 0x1e950,
    0x1fbf0]

/-- Digits that are not decimal, such as those in circles. -/
def nondecimalDigitRanges : List (Nat × Nat) :=
  [(0xb2, 0xb3), (0xb9, 0xb9), (0x1369, 0x1371), (0x19da, 0x19da), (0x2070, 0x2070),
    (0x2074, 0x2079), (0x2080, 0x2089), (0x2460, 0x2468), (0x2474, 0x247c), (0x2488, 0x2490),
    (0x24ea, 0x24ea), (0x24f5, 0x24fd), (0x24ff, 0x24ff), (0x2776, 0x277e), (0x2780, 0x2788),
    (0x278a, 0x2792), (0x10a40, 0x10a43), (0x10e60, 0x10e68), (0x11052, 0x1105a),
    (0x1f100, 0x1f10a)]

/-- The value of a decimal digit: its distance from the last zero before it. -/
def pythonDecimalDigit (character : Char) : Option Nat :=
  (decimalZeroes.takeWhile (· ≤ character.toNat)).getLast?.bind fun first =>
    let value := character.toNat - first
    if value < 10 then some value else none

def pythonIsDigit (character : Char) : Bool :=
  (pythonDecimalDigit character).isSome ||
    nondecimalDigitRanges.any fun range =>
      range.1 ≤ character.toNat && character.toNat ≤ range.2

theorem pythonDecimalDigit_lt {character : Char} {value : Nat}
    (h : pythonDecimalDigit character = some value) : value < 10 := by
  obtain ⟨first, -, hvalue⟩ := Option.bind_eq_some_iff.mp h
  simp only [Option.ite_none_right_eq_some, Option.some.injEq] at hvalue
  omega

/-! ## Names and numbers -/

def validDataGroupName (name : String) : Bool :=
  (Text.stripPrefix name "DG").any fun digits => digits ≠ "" && digits.toList.all pythonIsDigit

inductive PassportRequestError
  | missingDataGroups
  | invalidDataGroupName
  | invalidDataGroupContent
  deriving DecidableEq, Repr

/-- The data groups of a request that the contract accepts; `decodes` tells base64 content. -/
def validDataGroups (decodes : String → Bool) (groups : BTreeMap String String) :
    Except PassportRequestError Unit := do
  rejectIf (!groups.containsKey "DG1" || !groups.containsKey "DG2") .missingDataGroups
  forEach (fun group => do
    rejectIf (!validDataGroupName group.1) .invalidDataGroupName
    rejectIf (!decodes group.2) .invalidDataGroupContent) groups.entries

/-- The decimal digits of a name. -/
def decimalDigits (name : String) : Option (List Nat) :=
  (Text.stripPrefix name "DG").bind fun digits => digits.toList.mapM pythonDecimalDigit

/-- The number of a row of decimal digits, if there are any. -/
def parseBytes (digits : List Nat) : Option Nat :=
  if digits = [] then none else some (digits.foldl (fun number digit => 10 * number + digit) 0)

/-- The number that a name denotes. -/
def dataGroupNumber (name : String) : Option Nat := (decimalDigits name).bind parseBytes

/-- The data groups by their numbers: a later group takes the place of an earlier one. -/
def numberedDataGroups (groups : BTreeMap String String) :
    Except PassportRequestError (BTreeMap Nat String) := do
  let entries ← mapEach (fun group => do
    let number ← okOr (dataGroupNumber group.1) .invalidDataGroupName
    return (number, group.2)) groups.entries
  return BTreeMap.ofEntries entries

/-! ## Digits that denote one number -/

def digitsValue (digits : List Nat) : Nat :=
  digits.foldl (fun number digit => 10 * number + digit) 0

theorem digitsValue_eq (digits : List Nat) :
    digitsValue digits = Nat.ofDigits 10 digits.reverse := by
  rw [digitsValue, Nat.ofDigits_eq_foldr, List.foldr_reverse]
  congr 1
  funext number digit
  simp [Nat.add_comm]

/-- Zeros in front count for nothing. -/
theorem digitsValue_dropWhile (digits : List Nat) :
    digitsValue (digits.dropWhile (· = 0)) = digitsValue digits := by
  induction digits with
  | nil => rfl
  | cons digit digits ih =>
      by_cases hdigit : digit = 0
      · subst hdigit
        rw [List.dropWhile_cons_of_pos (by simp), ih]
        rfl
      · rw [List.dropWhile_cons_of_neg (by simpa using hdigit)]

/-- A number determines its digits, but for zeros in front. -/
theorem dropWhile_eq_of_digitsValue {digits digits' : List Nat} (h : ∀ d ∈ digits, d < 10)
    (h' : ∀ d ∈ digits', d < 10) (heq : digitsValue digits = digitsValue digits') :
    digits.dropWhile (· = 0) = digits'.dropWhile (· = 0) := by
  have hplain : ∀ digits : List Nat, (∀ d ∈ digits, d < 10) →
      Nat.digits 10 (digitsValue digits) = (digits.dropWhile (· = 0)).reverse := by
    intro digits hlt
    rw [← digitsValue_dropWhile, digitsValue_eq]
    apply Nat.digits_ofDigits 10 (by decide)
    · intro d hd
      exact hlt d ((List.dropWhile_suffix _).subset (List.mem_reverse.mp hd))
    · intro hne
      have hhead : digits.dropWhile (· = 0) ≠ [] := by simpa using hne
      rw [List.getLast_reverse]
      simpa using List.head_dropWhile_not (fun d : Nat => decide (d = 0)) hhead
  have hdigits := congrArg (Nat.digits 10) heq
  rw [hplain digits h, hplain digits' h'] at hdigits
  exact List.reverse_injective hdigits

/-- The digits of a name, without the zeros in front. -/
def plainDigits (name : String) : Option (List Nat) :=
  (decimalDigits name).map (List.dropWhile (· = 0))

theorem mem_of_mapM {α β : Type} {f : α → Option β} {l : List α} {l' : List β}
    (h : l.mapM f = some l') : ∀ b ∈ l', ∃ a ∈ l, f a = some b := by
  induction l generalizing l' with
  | nil =>
      obtain rfl : [] = l' := by simpa using h
      simp
  | cons a l ih =>
      rw [List.mapM_cons] at h
      obtain ⟨b, hb, h⟩ := Option.bind_eq_some_iff.mp h
      obtain ⟨rest, hrest, h⟩ := Option.bind_eq_some_iff.mp h
      cases h
      intro c hc
      rcases List.mem_cons.mp hc with rfl | hc
      · exact ⟨a, List.mem_cons_self, hb⟩
      · obtain ⟨d, hd, hdc⟩ := ih hrest c hc
        exact ⟨d, List.mem_cons_of_mem a hd, hdc⟩

theorem decimalDigits_lt {name : String} {digits : List Nat}
    (h : decimalDigits name = some digits) : ∀ d ∈ digits, d < 10 := by
  obtain ⟨text, -, hdigits⟩ := Option.bind_eq_some_iff.mp h
  intro d hd
  obtain ⟨c, -, hc⟩ := mem_of_mapM hdigits d hd
  exact pythonDecimalDigit_lt hc

theorem decimalDigits_ne_nil {name : String} (hvalid : validDataGroupName name = true)
    {digits : List Nat} (h : decimalDigits name = some digits) : digits ≠ [] := by
  obtain ⟨text, htext, hdigits⟩ := Option.bind_eq_some_iff.mp h
  rw [validDataGroupName, htext] at hvalid
  rintro rfl
  have hempty : text.toList = [] := by
    cases hchars : text.toList with
    | nil => rfl
    | cons c chars =>
        rw [hchars, List.mapM_cons] at hdigits
        obtain ⟨d, -, hdigits⟩ := Option.bind_eq_some_iff.mp hdigits
        obtain ⟨rest, -, hdigits⟩ := Option.bind_eq_some_iff.mp hdigits
        cases hdigits
  have htext' : text = "" := String.toList_injective hempty
  simp [htext'] at hvalid

/-- Names of the contract denote one number when their digits are the same, but for zeros in
front. -/
theorem dataGroupNumber_eq_iff {name name' : String} (hvalid : validDataGroupName name = true)
    (hvalid' : validDataGroupName name' = true) (h : (decimalDigits name).isSome)
    (h' : (decimalDigits name').isSome) :
    dataGroupNumber name = dataGroupNumber name' ↔ plainDigits name = plainDigits name' := by
  obtain ⟨digits, hdigits⟩ := Option.isSome_iff_exists.mp h
  obtain ⟨digits', hdigits'⟩ := Option.isSome_iff_exists.mp h'
  have hne := decimalDigits_ne_nil hvalid hdigits
  have hne' := decimalDigits_ne_nil hvalid' hdigits'
  simp only [dataGroupNumber, plainDigits, hdigits, hdigits', Option.bind_some, parseBytes,
    if_neg hne, if_neg hne', Option.map_some, Option.some.injEq]
  constructor
  · exact dropWhile_eq_of_digitsValue (decimalDigits_lt hdigits) (decimalDigits_lt hdigits')
  · intro heq
    have hvalue := congrArg digitsValue heq
    rwa [digitsValue_dropWhile, digitsValue_dropWhile] at hvalue

/-! ## Groups that are kept -/

/-- Nothing is lost: there are as many groups as before, each with its content under its own
number. -/
structure DataGroupsKept (groups : BTreeMap String String) (numbered : BTreeMap Nat String) :
    Prop where
  size : numbered.length = groups.length
  content : ∀ name content, groups.get name = some content →
    ∃ number, dataGroupNumber name = some number ∧ numbered.get number = some content
  distinct : ∀ name ∈ groups.keys, ∀ name' ∈ groups.keys, name ≠ name' →
    dataGroupNumber name ≠ dataGroupNumber name'

def numberedEntry (group : String × String) : Nat × String :=
  ((dataGroupNumber group.1).getD 0, group.2)

theorem numberedDataGroups_eq_ok {groups : BTreeMap String String}
    {numbered : BTreeMap Nat String} :
    numberedDataGroups groups = .ok numbered ↔
      (∀ group ∈ groups.entries, (dataGroupNumber group.1).isSome) ∧
        numbered = BTreeMap.ofEntries (groups.entries.map numberedEntry) := by
  constructor
  · intro h
    simp only [numberedDataGroups, bind_eq_ok, pure, Except.pure, Except.ok.injEq] at h
    obtain ⟨entries, hentries, rfl⟩ := h
    obtain ⟨rfl, hsome⟩ := mapEach_eq_ok (g := numberedEntry)
      (p := fun group => (dataGroupNumber group.1).isSome) (by
        intro group entry hentry
        simp only [bind_eq_ok, okOr_eq_ok, Except.ok.injEq] at hentry
        obtain ⟨number, hnumber, rfl⟩ := hentry
        simp [numberedEntry, hnumber]) hentries
    exact ⟨hsome, rfl⟩
  · rintro ⟨hsome, rfl⟩
    have hentries := mapEach_of_ok (l := groups.entries) (g := numberedEntry)
      (f := fun group => do
        let number ← okOr (dataGroupNumber group.1) PassportRequestError.invalidDataGroupName
        return (number, group.2)) (by
        intro group hgroup
        obtain ⟨number, hnumber⟩ := Option.isSome_iff_exists.mp (hsome group hgroup)
        simp only [numberedEntry, hnumber, okOr]
        rfl)
    rw [numberedDataGroups, hentries]
    rfl

theorem validDataGroups_names {decodes : String → Bool} {groups : BTreeMap String String}
    (haccepted : validDataGroups decodes groups = .ok ()) :
    ∀ name ∈ groups.keys, validDataGroupName name = true := by
  simp only [validDataGroups, bind_eq_ok, exists_unit, forEach_eq_ok] at haccepted
  intro name hname
  obtain ⟨group, hgroup, rfl⟩ := List.mem_map.mp hname
  have hvalid := (haccepted.2 group hgroup).1
  simpa using hvalid

/-- What is kept of groups whose names all denote a number. -/
theorem dataGroupsKept_iff {groups : BTreeMap String String}
    (hsome : ∀ name ∈ groups.keys, (dataGroupNumber name).isSome) :
    DataGroupsKept groups (BTreeMap.ofEntries (groups.entries.map numberedEntry)) ↔
      groups.keys.Pairwise fun name name' => dataGroupNumber name ≠ dataGroupNumber name' := by
  have hkeys : (groups.entries.map numberedEntry).map Prod.fst =
      groups.keys.map fun name => (dataGroupNumber name).getD 0 := by
    simp [BTreeMap.keys, numberedEntry]
  constructor
  · intro h
    exact groups.sorted.imp_of_mem fun hname hname' hlt =>
      h.distinct _ hname _ hname' (ne_of_lt hlt)
  · intro h
    have hnodup : ((groups.entries.map numberedEntry).map Prod.fst).Nodup := by
      rw [hkeys, List.Nodup, List.pairwise_map]
      refine h.imp_of_mem fun {name name'} hname hname' hne heq => hne ?_
      obtain ⟨number, hnumber⟩ := Option.isSome_iff_exists.mp (hsome name hname)
      obtain ⟨number', hnumber'⟩ := Option.isSome_iff_exists.mp (hsome name' hname')
      rw [hnumber, hnumber'] at heq ⊢
      exact congrArg some heq
    exact {
      size := by
        have hlength := (BTreeMap.length_ofEntries (groups.entries.map numberedEntry)).mpr hnodup
        rwa [List.length_map] at hlength
      content := by
        intro name content hget
        have hgroup := (BTreeMap.get_eq_some groups name content).mp hget
        obtain ⟨number, hnumber⟩ := Option.isSome_iff_exists.mp
          (hsome name (List.mem_map_of_mem hgroup))
        refine ⟨number, hnumber, ?_⟩
        rw [BTreeMap.get_ofEntries hnodup]
        exact List.mem_map.mpr ⟨_, hgroup, by simp [numberedEntry, hnumber]⟩
      distinct := by
        intro name hname name' hname' hne
        have : Std.Symm fun name name' => dataGroupNumber name ≠ dataGroupNumber name' :=
          ⟨fun _ _ h => Ne.symm h⟩
        exact h.forall hname hname' hne }

/-- **Data groups are kept**, or refused, exactly when a name has a digit that is not decimal
or no two names have the same digits, but for zeros in front. -/
theorem data_groups_kept_iff (decodes : String → Bool) (groups : BTreeMap String String)
    (haccepted : validDataGroups decodes groups = .ok ()) :
    (∀ numbered, numberedDataGroups groups = .ok numbered → DataGroupsKept groups numbered) ↔
      (∃ name ∈ groups.keys, decimalDigits name = none) ∨
        groups.keys.Pairwise fun name name' => plainDigits name ≠ plainDigits name' := by
  have hvalid := validDataGroups_names haccepted
  have hnumbers : ∀ name ∈ groups.keys,
      ((dataGroupNumber name).isSome ↔ (decimalDigits name).isSome) := by
    intro name hname
    cases hdigits : decimalDigits name with
    | none => simp [dataGroupNumber, hdigits]
    | some digits =>
        simp [dataGroupNumber, hdigits, parseBytes, decimalDigits_ne_nil (hvalid name hname) hdigits]
  have hgroups : (∀ group ∈ groups.entries, (dataGroupNumber group.1).isSome) ↔
      ∀ name ∈ groups.keys, (decimalDigits name).isSome := by
    rw [BTreeMap.keys, List.forall_mem_map]
    exact forall₂_congr fun group hgroup => hnumbers group.1 (List.mem_map_of_mem hgroup)
  have hpairwise : (∀ name ∈ groups.keys, (decimalDigits name).isSome) →
      ((groups.keys.Pairwise fun name name' => dataGroupNumber name ≠ dataGroupNumber name') ↔
        groups.keys.Pairwise fun name name' => plainDigits name ≠ plainDigits name') := by
    intro hdecimal
    refine List.Pairwise.iff_of_mem fun {name name'} hname hname' => ?_
    exact not_congr (dataGroupNumber_eq_iff (hvalid name hname) (hvalid name' hname')
      (hdecimal name hname) (hdecimal name' hname'))
  have hkept : (∀ name ∈ groups.keys, (decimalDigits name).isSome) →
      (DataGroupsKept groups (BTreeMap.ofEntries (groups.entries.map numberedEntry)) ↔
        groups.keys.Pairwise fun name name' => plainDigits name ≠ plainDigits name') := by
    intro hdecimal
    rw [← hpairwise hdecimal]
    exact dataGroupsKept_iff fun name hname => (hnumbers name hname).mpr (hdecimal name hname)
  constructor
  · intro h
    by_cases hdecimal : ∀ name ∈ groups.keys, (decimalDigits name).isSome
    · have hok := numberedDataGroups_eq_ok.mpr ⟨hgroups.mpr hdecimal, rfl⟩
      exact .inr ((hkept hdecimal).mp (h _ hok))
    · push Not at hdecimal
      obtain ⟨name, hname, hnone⟩ := hdecimal
      exact .inl ⟨name, hname, by simpa using hnone⟩
  · rintro h numbered hok
    obtain ⟨hsome, rfl⟩ := numberedDataGroups_eq_ok.mp hok
    have hdecimal := hgroups.mp hsome
    rcases h with ⟨name, hname, hnone⟩ | hdistinct
    · have hdigits := hdecimal name hname
      rw [hnone] at hdigits
      cases hdigits
    · exact (hkept hdecimal).mpr hdistinct

namespace Example

/-- The contents of the examples are base64. -/
def decodes (content : String) : Bool := content ∈ ["YQ==", "Yg==", "Yw=="]

def groups : BTreeMap String String := BTreeMap.ofEntries [("DG1", "YQ=="), ("DG2", "Yg==")]

/-- Two of the names denote the number one. -/
def aliased : BTreeMap String String :=
  BTreeMap.ofEntries [("DG01", "Yw=="), ("DG1", "YQ=="), ("DG2", "Yg==")]

end Example

theorem data_groups_kept_two :
    ∃ numbered, numberedDataGroups Example.groups = .ok numbered ∧
      DataGroupsKept Example.groups numbered := by
  have hok : (numberedDataGroups Example.groups).toOption.isSome = true := by decide +kernel
  cases hrun : numberedDataGroups Example.groups with
  | error e =>
      rw [hrun] at hok
      cases hok
  | ok numbered =>
      have hkept := (data_groups_kept_iff Example.decodes Example.groups (by decide +kernel)).mpr
        (.inr (by decide +kernel))
      exact ⟨numbered, rfl, hkept numbered hrun⟩

/-- A group whose name has a zero in front is accepted and lost. -/
theorem data_group_lost :
    validDataGroups Example.decodes Example.aliased = .ok () ∧
      Example.aliased.get "DG01" = some "Yw==" ∧
      (numberedDataGroups Example.aliased).map BTreeMap.entries =
        .ok [(1, "YQ=="), (2, "Yg==")] ∧
      ∃ numbered, numberedDataGroups Example.aliased = .ok numbered ∧
        ¬ DataGroupsKept Example.aliased numbered := by
  have hentries : (numberedDataGroups Example.aliased).map BTreeMap.entries =
      .ok [(1, "YQ=="), (2, "Yg==")] := by
    decide +kernel
  refine ⟨by decide +kernel, by decide +kernel, hentries, ?_⟩
  cases hrun : numberedDataGroups Example.aliased with
  | error e =>
      rw [hrun] at hentries
      cases hentries
  | ok numbered =>
      rw [hrun] at hentries
      refine ⟨numbered, rfl, fun hkept => ?_⟩
      have hlength : numbered.length = 2 := by
        rw [BTreeMap.length, Except.ok.inj hentries]
        rfl
      have hsize := hkept.size
      rw [hlength] at hsize
      exact absurd hsize (by decide +kernel)

end Marty.Issuance.Passport
