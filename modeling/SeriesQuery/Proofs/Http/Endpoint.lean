import SeriesQuery.Http.Endpoint
import SeriesQuery.Proofs.Text.Items
import SeriesQuery.Proofs.Text.Numeral
import SeriesQuery.Proofs.Text.Split

set_option autoImplicit false

/-!
# Which texts write endpoints

The written forms of addresses: in version 4 four numbers with dots between them, in version 6 groups
with colons between them, in brackets. A host and a port with a colon between them write an endpoint
if and only if the host is such an address, whatever the port is.
-/

namespace SeriesQuery.Http

open SeriesQuery.Text

/-! ## Written forms -/

/-- An address of version 4. -/
inductive FourForm : List Char → Prop where
  | numbers {numbers : List UInt8} : numbers.length = 4 →
      FourForm (['.'].intercalate (numbers.map fun number => Numeral.ofNat number.toNat))

/-- A group is written with one to four hexadecimal digits. -/
structure GroupForm (text : List Char) : Prop where
  nonempty : text ≠ []
  short : text.length ≤ 4
  digits : ∀ c ∈ text, (Percent.hexValue? c).isSome = true

/-- Texts write a number of groups, one each. The last text may write two as an address of version
4. -/
inductive GroupsForm : List (List Char) → Nat → Prop where
  | nil : GroupsForm [] 0
  | group {text : List Char} {texts : List (List Char)} {count : Nat} : GroupForm text →
      GroupsForm texts count → GroupsForm (text :: texts) (count + 1)
  | four {text : List Char} : FourForm text → GroupsForm [text] 2

/-- An address of version 6 without its zone: eight groups with colons between them, or fewer with
two colons in the place of those that are left out. -/
inductive SixForm : List Char → Prop where
  | full {texts : List (List Char)} : GroupsForm texts 8 → SixForm ([':'].intercalate texts)
  | short {before after : List (List Char)} {count : Nat} : (∀ text ∈ before, GroupForm text) →
      GroupsForm after count → before.length + count < 8 →
      SixForm ([':'].intercalate before ++ ':' :: ':' :: [':'].intercalate after)

/-- The zone of an address of version 6: nothing, or a number after a percent sign. -/
inductive ZoneForm : List Char → Prop where
  | none : ZoneForm []
  | number {digits : List Char} {zone : Nat} : Numeral.Writes digits zone → zone < UInt32.size →
      ZoneForm ('%' :: digits)

/-- The hosts that are addresses. -/
inductive HostForm : List Char → Prop where
  | four {text : List Char} : FourForm text → HostForm text
  | six {groups zone : List Char} : SixForm groups → ZoneForm zone →
      HostForm ('[' :: (groups ++ zone ++ [']']))

/-! ## Marks -/

theorem not_mem_intercalate {mark sep : Char} {texts : List (List Char)} (other : mark ≠ sep)
    (absent : ∀ text ∈ texts, mark ∉ text) : mark ∉ [sep].intercalate texts := by
  induction texts with
  | nil => exact List.not_mem_nil
  | cons first rest ih =>
      obtain ⟨firstAbsent, restAbsent⟩ := List.forall_mem_cons.mp absent
      cases rest with
      | nil => rwa [List.intercalate_singleton]
      | cons second rest =>
          rw [List.intercalate_cons_cons, List.mem_append, List.mem_append, List.mem_singleton]
          exact not_or.mpr ⟨not_or.mpr ⟨firstAbsent, other⟩, ih restAbsent⟩

theorem not_mem_ofNat {mark : Char} (other : mark.isDigit = false) (value : Nat) :
    mark ∉ Numeral.ofNat value := by
  intro member
  rw [(Numeral.writes_ofNat value).allDigits mark member] at other
  cases other

theorem FourForm.not_mem {text : List Char} (form : FourForm text) {mark : Char}
    (notDigit : mark.isDigit = false) (notDot : mark ≠ '.') : mark ∉ text := by
  obtain ⟨_⟩ := form
  refine not_mem_intercalate notDot fun digits member => ?_
  obtain ⟨number, _, rfl⟩ := List.mem_map.mp member
  exact not_mem_ofNat notDigit number.toNat

theorem FourForm.dot_mem {text : List Char} (form : FourForm text) : '.' ∈ text := by
  obtain @⟨numbers, count⟩ := form
  obtain ⟨first, second, third, fourth, rfl⟩ := List.length_eq_four.mp count
  simp [List.intercalate_cons_cons]

theorem GroupForm.not_mem {text : List Char} (form : GroupForm text) {mark : Char}
    (notDigit : Percent.hexValue? mark = none) : mark ∉ text := by
  intro member
  have digit := form.digits mark member
  rw [notDigit] at digit
  cases digit

theorem GroupsForm.not_mem {texts : List (List Char)} {count : Nat} (form : GroupsForm texts count)
    {mark : Char} (noGroup : Percent.hexValue? mark = none) (notDigit : mark.isDigit = false)
    (notDot : mark ≠ '.') : ∀ text ∈ texts, mark ∉ text := by
  induction form with
  | nil => exact List.forall_mem_nil _
  | group group _ ih => exact List.forall_mem_cons.mpr ⟨group.not_mem noGroup, ih⟩
  | four four => simpa using four.not_mem notDigit notDot

/-- The characters of an address of version 6 are hexadecimal digits, dots and colons. -/
theorem SixForm.not_mem {text : List Char} (form : SixForm text) {mark : Char}
    (noGroup : Percent.hexValue? mark = none) (notDigit : mark.isDigit = false) (notDot : mark ≠ '.')
    (notColon : mark ≠ ':') : mark ∉ text := by
  cases form with
  | full groups => exact not_mem_intercalate notColon (groups.not_mem noGroup notDigit notDot)
  | short before after _ =>
      have front := not_mem_intercalate notColon fun text member =>
        (before text member).not_mem noGroup
      have back := not_mem_intercalate notColon (after.not_mem noGroup notDigit notDot)
      simp [front, back, notColon]

theorem ZoneForm.not_mem {text : List Char} (form : ZoneForm text) {mark : Char}
    (notDigit : mark.isDigit = false) (notPercent : mark ≠ '%') : mark ∉ text := by
  cases form with
  | none => exact List.not_mem_nil
  | number written _ =>
      refine List.not_mem_cons_of_ne_of_not_mem notPercent fun member => ?_
      rw [written.allDigits mark member] at notDigit
      cases notDigit

/-- What can stand between two colons, or next to one. -/
def Solid (text : List Char) : Prop :=
  text ≠ [] ∧ ':' ∉ text

theorem GroupForm.solid {text : List Char} (form : GroupForm text) : Solid text :=
  ⟨form.nonempty, form.not_mem (by decide)⟩

theorem GroupsForm.solid {texts : List (List Char)} {count : Nat} (form : GroupsForm texts count) :
    ∀ text ∈ texts, Solid text := by
  induction form with
  | nil => exact List.forall_mem_nil _
  | group group _ ih => exact List.forall_mem_cons.mpr ⟨group.solid, ih⟩
  | four four =>
      rw [List.forall_mem_singleton]
      exact ⟨List.ne_nil_of_mem four.dot_mem, four.not_mem (by decide) (by decide)⟩

/-! ## Version 4 -/

namespace Address

theorem number?_eq_some_iff {text : List Char} {number : UInt8} :
    number? text = some number ↔ text = Numeral.ofNat number.toNat := by
  rw [number?]
  constructor
  · intro read
    split at read
    · cases read
    · next fits =>
        obtain ⟨value, found, rfl⟩ := Option.map_eq_some_iff.mp read
        obtain ⟨digits, small⟩ := Option.filter_eq_some_iff.mp found
        have small : value < 256 := of_decide_eq_true small
        have written := Numeral.digits?_eq_some_iff.mp digits
        rw [UInt8.toNat_ofNat', Nat.mod_eq_of_lt small]
        refine written.eq_ofNat fun zero => ?_
        have single : text.length = 1 := by
          by_contra several
          exact fits (.inr ⟨zero, several⟩)
        obtain ⟨first, rfl⟩ := List.length_eq_one_iff.mp single
        simpa using zero
  · rintro rfl
    have small := number.toNat_lt
    rw [if_neg, Numeral.digits?_eq_some_iff.mpr (Numeral.writes_ofNat _),
      Option.filter_some, if_pos (decide_eq_true small), Option.map_some, UInt8.ofNat_toNat]
    rintro (long | ⟨zero, several⟩)
    · have short : (Numeral.ofNat number.toNat).length ≤ 3 :=
        Numeral.length_ofNat_le_three (by omega)
      omega
    · rw [Numeral.ofNat_eq_of_head zero] at several
      exact several rfl

theorem mapM_number?_eq_some_iff {texts : List (List Char)} {numbers : List UInt8} :
    texts.mapM number? = some numbers ↔
      texts = numbers.map fun number => Numeral.ofNat number.toNat :=
  mapM_eq_some_iff_map fun _ _ => number?_eq_some_iff

theorem numbers?_eq_some_iff {text : List Char} {numbers : List UInt8} :
    numbers? text = some numbers ↔ numbers.length = 4 ∧
      text = ['.'].intercalate (numbers.map fun number => Numeral.ofNat number.toNat) := by
  rw [numbers?, Option.filter_eq_some_iff, mapM_number?_eq_some_iff, decide_eq_true_iff]
  constructor
  · rintro ⟨written, count⟩
    exact ⟨count, by rw [← written, intercalate_pieces]⟩
  · rintro ⟨count, rfl⟩
    refine ⟨pieces_intercalate ?_ ?_, count⟩
    · rw [Ne, List.map_eq_nil_iff, ← List.length_eq_zero_iff]
      omega
    · intro text member
      obtain ⟨number, _, rfl⟩ := List.mem_map.mp member
      exact not_mem_ofNat (by decide) number.toNat

theorem exists_numbers?_iff {text : List Char} :
    (∃ numbers, numbers? text = some numbers) ↔ FourForm text := by
  constructor
  · rintro ⟨numbers, read⟩
    obtain ⟨count, rfl⟩ := numbers?_eq_some_iff.mp read
    exact .numbers count
  · rintro ⟨count⟩
    exact ⟨_, numbers?_eq_some_iff.mpr ⟨count, rfl⟩⟩

/-! ## Version 6 -/

theorem exists_hexDigits?_iff {text : List Char} {sofar : Nat} :
    (∃ value, text.foldlM
        (fun value c => (Percent.hexValue? c).map fun digit => value * 16 + digit) sofar =
      some value) ↔ ∀ c ∈ text, (Percent.hexValue? c).isSome = true := by
  induction text generalizing sofar with
  | nil => simp
  | cons c rest ih =>
      rw [List.foldlM_cons, List.forall_mem_cons]
      cases Percent.hexValue? c with
      | none => simp
      | some digit => simpa using ih

theorem exists_group?_iff {text : List Char} :
    (∃ group, group? text = some group) ↔ GroupForm text := by
  rw [group?]
  split
  · next bad =>
      refine iff_of_false (by simp) fun form => ?_
      cases bad with
      | inl empty => exact form.nonempty empty
      | inr long => exact absurd form.short (by omega)
  · next good =>
      obtain ⟨nonempty, short⟩ := not_or.mp good
      constructor
      · rintro ⟨group, read⟩
        obtain ⟨value, digits, _⟩ := Option.map_eq_some_iff.mp read
        exact ⟨nonempty, by omega, exists_hexDigits?_iff.mp ⟨value, digits⟩⟩
      · intro form
        obtain ⟨value, digits⟩ := exists_hexDigits?_iff.mpr form.digits
        exact ⟨_, Option.map_eq_some_iff.mpr ⟨value, digits, rfl⟩⟩

theorem exists_mapM_group?_iff {texts : List (List Char)} :
    (∃ groups, texts.mapM group? = some groups ∧ groups.length = texts.length) ↔
      ∀ text ∈ texts, GroupForm text := by
  simp only [mapM_eq_some_iff]
  induction texts with
  | nil => simp
  | cons text texts ih =>
      rw [List.forall_mem_cons, ← ih, ← exists_group?_iff]
      constructor
      · rintro ⟨_, _ | ⟨found, others⟩, _⟩
        exact ⟨⟨_, found⟩, _, others, others.length_eq.symm⟩
      · rintro ⟨⟨group, found⟩, groups, others, count⟩
        exact ⟨group :: groups, .cons found others, congrArg Nat.succ count⟩

theorem exists_lastGroups?_iff {text : List Char} {count : Nat} :
    (∃ groups, lastGroups? text = some groups ∧ groups.length = count) ↔
      GroupsForm [text] count := by
  cases asGroup : group? text with
  | some group =>
      have form := exists_group?_iff.mp ⟨group, asGroup⟩
      simp only [lastGroups?, asGroup, Option.some.injEq]
      constructor
      · rintro ⟨_, rfl, rfl⟩
        exact .group form .nil
      · rintro (_ | ⟨_, ⟨⟩⟩ | four)
        · exact ⟨_, rfl, rfl⟩
        · exact absurd four.dot_mem (form.not_mem (by decide))
  | none =>
      have noGroup : ¬ GroupForm text := by
        rw [← exists_group?_iff, asGroup]
        simp
      cases asNumbers : numbers? text with
      | none =>
          have noFour : ¬ FourForm text := by
            rw [← exists_numbers?_iff, asNumbers]
            simp
          simp only [lastGroups?, asGroup, asNumbers]
          refine iff_of_false (by simp) ?_
          rintro (_ | ⟨form, _⟩ | four)
          · exact noGroup form
          · exact noFour four
      | some numbers =>
          obtain ⟨length, _⟩ := numbers?_eq_some_iff.mp asNumbers
          have four := exists_numbers?_iff.mp ⟨numbers, asNumbers⟩
          obtain ⟨first, second, third, fourth, rfl⟩ := List.length_eq_four.mp length
          simp only [lastGroups?, asGroup, asNumbers, Option.some.injEq]
          constructor
          · rintro ⟨_, rfl, rfl⟩
            exact .four four
          · rintro (_ | ⟨form, _⟩ | _)
            · exact absurd form noGroup
            · exact ⟨_, rfl, rfl⟩

theorem exists_groupsOf?_iff {texts : List (List Char)} {count : Nat} :
    (∃ groups, groupsOf? texts = some groups ∧ groups.length = count) ↔
      GroupsForm texts count := by
  induction texts generalizing count with
  | nil =>
      simp only [groupsOf?, Option.some.injEq]
      constructor
      · rintro ⟨_, rfl, rfl⟩
        exact .nil
      · rintro ⟨⟩
        exact ⟨_, rfl, rfl⟩
  | cons first rest ih =>
      cases rest with
      | nil => exact exists_lastGroups?_iff
      | cons second rest =>
          simp only [groupsOf?, Option.bind_eq_bind, Option.bind_eq_some_iff, Option.pure_def,
            Option.some.injEq]
          constructor
          · rintro ⟨_, ⟨group, isGroup, groups, areGroups, rfl⟩, rfl⟩
            exact .group (exists_group?_iff.mp ⟨group, isGroup⟩) (ih.mp ⟨groups, areGroups, rfl⟩)
          · rintro (_ | ⟨form, forms⟩)
            obtain ⟨group, isGroup⟩ := exists_group?_iff.mpr form
            obtain ⟨groups, areGroups, rfl⟩ := ih.mpr forms
            exact ⟨_, ⟨group, isGroup, groups, areGroups, rfl⟩, rfl⟩

/-! ### Two colons -/

theorem cutColons_cons {c : Char} {rest : List Char}
    (single : ∀ more, c :: rest ≠ ':' :: ':' :: more) :
    cutColons (c :: rest) = (c :: (cutColons rest).1, (cutColons rest).2) := by
  rw [cutColons.eq_3]
  rintro more rfl rfl
  exact single more rfl

theorem cutColons_append_of_not_mem {front : List Char} (absent : ':' ∉ front)
    (rest : List Char) :
    cutColons (front ++ rest) = (front ++ (cutColons rest).1, (cutColons rest).2) := by
  induction front with
  | nil => rfl
  | cons c front ih =>
      have other := List.ne_of_not_mem_cons absent
      have frontAbsent := List.not_mem_of_not_mem_cons absent
      rw [List.cons_append, cutColons_cons (by simp [Ne.symm other]), ih frontAbsent,
        List.cons_append]

theorem cutColons_intercalate_append {texts : List (List Char)}
    (solid : ∀ text ∈ texts, Solid text) (rest : List Char) :
    cutColons ([':'].intercalate texts ++ rest) =
      ([':'].intercalate texts ++ (cutColons rest).1, (cutColons rest).2) := by
  induction texts with
  | nil => rfl
  | cons first texts ih =>
      obtain ⟨isFirst, others⟩ := List.forall_mem_cons.mp solid
      cases texts with
      | nil => rw [List.intercalate_singleton, cutColons_append_of_not_mem isFirst.2]
      | cons second texts =>
          -- The colon is single: the text after it starts with another character.
          obtain ⟨nonempty, absent⟩ := others second List.mem_cons_self
          obtain ⟨c, more, rfl⟩ := List.exists_cons_of_ne_nil nonempty
          have other := List.ne_of_not_mem_cons absent
          have single : ∀ after, ':' :: ([':'].intercalate ((c :: more) :: texts) ++ rest) ≠
              ':' :: ':' :: after := by
            cases texts <;> simp [List.intercalate_cons_cons, Ne.symm other]
          rw [List.intercalate_cons_cons, List.append_assoc, List.append_assoc,
            cutColons_append_of_not_mem isFirst.2, List.singleton_append, cutColons_cons single,
            ih others]
          simp

theorem eq_of_cutColons {text before after : List Char}
    (found : cutColons text = (before, some after)) : text = before ++ ':' :: ':' :: after := by
  fun_induction cutColons text generalizing before with
  | case1 rest =>
    cases found
    rfl
  | case2 => cases found
  | case3 c rest single ih =>
      obtain ⟨rfl, isAfter⟩ := Prod.mk.inj found
      rw [List.cons_append, ← ih (Prod.ext rfl isAfter)]

theorem intercalate_sideGroups (text : List Char) : [':'].intercalate (sideGroups text) = text := by
  rw [sideGroups]
  split
  · next empty => rw [empty, List.intercalate_nil]
  · exact intercalate_pieces ':' text

theorem sideGroups_intercalate {texts : List (List Char)} (solid : ∀ text ∈ texts, Solid text) :
    sideGroups ([':'].intercalate texts) = texts := by
  by_cases some : texts = []
  · rw [some]
    rfl
  · have apart := pieces_intercalate some fun text member => (solid text member).2
    rw [sideGroups, if_neg, apart]
    intro empty
    rw [empty] at apart
    exact (solid [] (by rw [← apart]; exact List.mem_singleton_self [])).1 rfl

theorem exists_groups?_iff {text : List Char} :
    (∃ groups, groups? text = some groups) ↔ SixForm text := by
  constructor
  · rintro ⟨groups, read⟩
    rw [groups?] at read
    split at read
    · obtain ⟨areGroups, count⟩ := Option.filter_eq_some_iff.mp read
      rw [← intercalate_pieces ':' text]
      exact .full (exists_groupsOf?_iff.mp ⟨groups, areGroups, of_decide_eq_true count⟩)
    · next before after found =>
        simp only [Option.bind_eq_bind, Option.bind_eq_some_iff, Option.pure_def] at read
        obtain ⟨head, isHead, tail, isTail, few⟩ := read
        split at few
        · cases few
        · next some =>
          rw [eq_of_cutColons found, ← intercalate_sideGroups before,
            ← intercalate_sideGroups after]
          have length := (mapM_eq_some_iff.mp isHead).length_eq
          refine .short (exists_mapM_group?_iff.mp ⟨head, isHead, length.symm⟩)
            (exists_groupsOf?_iff.mp ⟨tail, isTail, rfl⟩) (by omega)
  · intro form
    cases form with
    | @full texts forms =>
        obtain ⟨groups, areGroups, count⟩ := exists_groupsOf?_iff.mpr forms
        have some : texts ≠ [] := by
          rintro rfl
          cases forms
        have uncut := cutColons_intercalate_append forms.solid []
        rw [List.append_nil] at uncut
        refine ⟨groups, ?_⟩
        rw [groups?, uncut, pieces_intercalate some fun text member => (forms.solid text member).2,
          areGroups]
        simpa [cutColons] using count
    | @short before after _ heads tails few =>
        obtain ⟨head, isHead, headCount⟩ := exists_mapM_group?_iff.mpr heads
        obtain ⟨tail, isTail, rfl⟩ := exists_groupsOf?_iff.mpr tails
        have headsSolid : ∀ text ∈ before, Solid text := fun text member =>
          (heads text member).solid
        have cut := cutColons_intercalate_append headsSolid
          (':' :: ':' :: [':'].intercalate after)
        rw [groups?, cut]
        simp only [cutColons, List.append_nil, sideGroups_intercalate headsSolid,
          sideGroups_intercalate tails.solid, isHead, isTail]
        have left : 8 - (head.length + tail.length) ≠ 0 := by omega
        simp [left]

theorem exists_six?_iff {text : List Char} :
    (∃ address, six? text = some address) ↔
      ∃ groups zone, text = groups ++ zone ∧ SixForm groups ∧ ZoneForm zone := by
  constructor
  · rintro ⟨address, read⟩
    have whole := cut_append '%' text
    cases found : (cut '%' text).2 with
    | none =>
        simp only [six?, found, Option.bind_eq_bind, Option.bind_eq_some_iff] at read
        obtain ⟨_, _, groups, areGroups, _⟩ := read
        rw [found] at whole
        exact ⟨_, [], whole.symm, exists_groups?_iff.mp ⟨groups, areGroups⟩, .none⟩
    | some digits =>
        simp only [six?, found, Option.bind_eq_bind, Option.bind_eq_some_iff,
          Option.filter_eq_some_iff] at read
        obtain ⟨zone, ⟨isZone, small⟩, groups, areGroups, _⟩ := read
        rw [found] at whole
        exact ⟨_, '%' :: digits, whole.symm, exists_groups?_iff.mp ⟨groups, areGroups⟩,
          .number (Numeral.digits?_eq_some_iff.mp isZone) (of_decide_eq_true small)⟩
  · rintro ⟨groups, zone, rfl, form, zoneForm⟩
    have absent : '%' ∉ groups :=
      form.not_mem (by decide) (by decide) (by decide) (by decide)
    obtain ⟨values, areGroups⟩ := exists_groups?_iff.mpr form
    cases zoneForm with
    | none => simp [six?, cut_of_not_mem absent, areGroups]
    | number written small =>
        simp [six?, cut_append_cons absent, areGroups, Numeral.digits?_eq_some_iff.mpr written,
          Option.filter_some, small]

end Address

/-! ## Hosts -/

/-- The address that a host is. -/
def hostAddress? : List Char → Option Address
  | '[' :: rest =>
    match cut ']' rest with
    | (address, some []) => Address.six? address
    | _ => none
  | text => (Address.numbers? text).map .four

theorem exists_hostAddress?_iff {host : List Char} :
    (∃ address, hostAddress? host = some address) ↔ HostForm host := by
  rw [hostAddress?.eq_def]
  split
  · next rest =>
    have whole := cut_append ']' rest
    constructor
    · rintro ⟨address, read⟩
      split at read
      · next text found =>
          obtain ⟨groups, zone, rfl, form, zoneForm⟩ := Address.exists_six?_iff.mp ⟨address, read⟩
          rw [found] at whole
          rw [← whole]
          exact .six form zoneForm
      · cases read
    · intro form
      cases form with
      | four four => exact absurd List.mem_cons_self (four.not_mem (by decide) (by decide))
      | six form zoneForm =>
          have front := form.not_mem (by decide : Percent.hexValue? ']' = none) (by decide)
            (by decide) (by decide)
          have absent := List.not_mem_append front (zoneForm.not_mem (by decide) (by decide))
          rw [cut_append_cons absent]
          exact Address.exists_six?_iff.mpr ⟨_, _, rfl, form, zoneForm⟩
  · next text plain =>
    constructor
    · rintro ⟨address, read⟩
      obtain ⟨numbers, isFour, _⟩ := Option.map_eq_some_iff.mp read
      exact .four (Address.exists_numbers?_iff.mp ⟨numbers, isFour⟩)
    · intro form
      cases form with
      | four four =>
          obtain ⟨numbers, isFour⟩ := Address.exists_numbers?_iff.mpr four
          exact ⟨_, Option.map_eq_some_iff.mpr ⟨numbers, isFour, rfl⟩⟩
      | six => exact absurd rfl (plain _)

example : hostAddress? "[::ffff:1.2.3.4%2]".toList =
    some (.six [0, 0, 0, 0, 0, 0xffff, 0x102, 0x304] 2) := by decide

example : hostAddress? "localhost".toList = none := by decide

namespace Endpoint

theorem port?_ofNat (port : UInt16) : port? (Numeral.ofNat port.toNat) = some port := by
  rw [port?, Numeral.digits?_eq_some_iff.mpr (Numeral.writes_ofNat _), Option.filter_some,
    if_pos (decide_eq_true port.toNat_lt), Option.map_some, UInt16.ofNat_toNat]

theorem port?_of_mem {text : List Char} (colon : ':' ∈ text) : port? text = none := by
  cases read : Numeral.digits? text with
  | none => simp [port?, read]
  | some value =>
      have digit := (Numeral.digits?_eq_some_iff.mp read).allDigits ':' colon
      cases digit

section

variable {text : String} {host : List Char} {port : UInt16}

theorem ofText?_bracket (isText : text.toList = '[' :: (host ++ ':' :: Numeral.ofNat port.toNat)) :
    ofText? text = (hostAddress? ('[' :: host)).map fun address => ⟨address, port⟩ := by
  rw [ofText?, isText, hostAddress?]
  cases found : cut ']' host with | mk before after =>
  cases after with
  | none =>
      have absent : ']' ∉ host := cut_eq_none_iff.mp (congrArg Prod.snd found)
      have portAbsent : ']' ∉ ':' :: Numeral.ofNat port.toNat := by
        simpa using not_mem_ofNat (by decide) port.toNat
      simp [cut_of_not_mem (List.not_mem_append absent portAbsent)]
  | some after =>
      simp only [cut_append_of_eq_some found]
      cases after with
      | nil =>
          simp only [List.nil_append]
          cases Address.six? before with
          | none => simp
          | some address => simp [port?_ofNat]
      | cons c after =>
          -- The port would start inside the host and hold the colon behind it.
          by_cases colon : c = ':'
          · subst colon
            simp [port?_of_mem]
          · simp [colon]

theorem ofText?_plain (isText : text.toList = host ++ ':' :: Numeral.ofNat port.toNat)
    (plain : ∀ rest, host ≠ '[' :: rest) :
    ofText? text = (hostAddress? host).map fun address => ⟨address, port⟩ := by
  rw [ofText?, isText, hostAddress?.eq_2 host plain]
  split
  · next rest isBracket =>
      cases host with
      | nil => cases isBracket
      | cons c host =>
          obtain ⟨rfl, _⟩ := List.cons.inj isBracket
          exact absurd rfl (plain host)
  · by_cases colon : ':' ∈ host
    · have noNumbers : Address.numbers? host = none := by
        by_contra some
        obtain ⟨numbers, isFour⟩ := Option.ne_none_iff_exists'.mp some
        have four := Address.exists_numbers?_iff.mp ⟨numbers, isFour⟩
        exact four.not_mem (by decide) (by decide) colon
      obtain ⟨before, after, rfl, absent⟩ := List.eq_append_cons_of_mem colon
      rw [List.append_assoc, List.cons_append, cut_append_cons absent, noNumbers]
      simp [port?_of_mem]
    · simp only [cut_append_cons colon]
      cases Address.numbers? host with
      | none => simp
      | some numbers => simp [port?_ofNat]

end

/-- Behind a host and a colon the port is read as it was written, and the host decides alone whether
there is an endpoint. -/
theorem ofText?_port (host : String) (port : UInt16) :
    ofText? (host ++ ":" ++ Numeral.natText port.toNat) =
      (hostAddress? host.toList).map fun address => ⟨address, port⟩ := by
  have isText : (host ++ ":" ++ Numeral.natText port.toNat).toList =
      host.toList ++ ':' :: Numeral.ofNat port.toNat := by
    simp [Numeral.natText]
  by_cases bracket : ∃ rest, host.toList = '[' :: rest
  · obtain ⟨rest, isBracket⟩ := bracket
    rw [isBracket] at isText ⊢
    exact ofText?_bracket isText
  · exact ofText?_plain isText fun rest same => bracket ⟨rest, same⟩

end Endpoint

end SeriesQuery.Http
