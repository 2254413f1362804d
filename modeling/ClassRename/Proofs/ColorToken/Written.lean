import ClassRename.ColorToken
import ClassRename.Proofs.Json.Written
import ClassRename.Proofs.RenameMap

/-! # Token trees that are written as JSON

A tree that is written as JSON is read back level by level, every group with its members in their order,
if the names in each group differ and the groups nest no deeper than JSON is read; deeper trees are
refused. The one exception is a tree that has the shape of a theme: a token file of that shape stands for
the theme's colours alone.
-/

namespace ClassRename.ColorToken

open Json (Yields Refuses)

variable {members found : List (String × ColorToken)} {member : String × ColorToken} {name : String}
  {token inner : ColorToken} {depth : Nat} {rest : List Char}

/-! ## Levels -/

/-- What holds of every colour, and of a group if of all its members, holds of every tree. -/
@[elab_as_elim]
theorem induction {motive : ColorToken → Prop} (color : ∀ text, motive (.color text))
    (group : ∀ members, (∀ member ∈ members, motive member.2) → motive (.group members))
    (token : ColorToken) : motive token := by
  refine token.rec (motive_2 := fun members => ∀ member ∈ members, motive member.2)
    (motive_3 := fun member => motive member.2) color group nofun ?_ (fun _ _ holds => holds)
  exact fun _ _ first later => List.forall_mem_cons.2 ⟨first, later⟩

mutual

/-- What a tree gives when each colour gives something, and each group something of what its members
give. -/
def fold {α : Type} (color : String → α) (group : List (String × α) → α) : ColorToken → α
  | .color text => color text
  | .group members => group (foldMembers color group members)

/-- What named trees give. -/
def foldMembers {α : Type} (color : String → α) (group : List (String × α) → α) :
    List (String × ColorToken) → List (String × α)
  | [] => []
  | member :: later => foldMember color group member :: foldMembers color group later

/-- What a named tree gives. -/
def foldMember {α : Type} (color : String → α) (group : List (String × α) → α) :
    String × ColorToken → String × α
  | (name, token) => (name, token.fold color group)

end

theorem fold_group {α : Type} (color : String → α) (group : List (String × α) → α)
    (members : List (String × ColorToken)) : fold color group (.group members) =
      group (members.map fun member => (member.1, member.2.fold color group)) := by
  rw [fold]
  congr 1
  induction members with
  | nil => rfl
  | cons member later ih => rw [foldMembers, ih, foldMember, List.map_cons]

/-- The names in each group of a tree differ. -/
def Keyed : ColorToken → Prop :=
  fold (fun _ => True) fun members => (members.map (·.1)).Nodup ∧ ∀ member ∈ members, member.2

@[simp] theorem keyed_color (text : String) : Keyed (.color text) := trivial

@[simp] theorem keyed_group_iff :
    Keyed (.group members) ↔ (members.map (·.1)).Nodup ∧ ∀ member ∈ members, member.2.Keyed := by
  simp only [Keyed, fold_group, List.map_map, List.forall_mem_map]
  rfl

/-- The number of groups that lie inside each other. -/
def nesting : ColorToken → Nat :=
  fold (fun _ => 0) fun members => (members.map (·.2)).foldr max 0 + 1

theorem nesting_group : (group members).nesting = (members.map (·.2.nesting)).foldr max 0 + 1 := by
  simp only [nesting, fold_group, List.map_map]
  rfl

theorem nesting_group_le_iff :
    (group members).nesting ≤ depth + 1 ↔ ∀ member ∈ members, member.2.nesting ≤ depth := by
  rw [nesting_group, Nat.add_le_add_iff_right]
  induction members with
  | nil => simp
  | cons member later ih =>
    rw [List.map_cons, List.foldr_cons, Nat.max_le, List.forall_mem_cons]
    exact and_congr_right fun _ => ih

/-- A group is deeper than its members. -/
theorem nesting_lt_group (isMember : member ∈ members) :
    member.2.nesting < (group members).nesting := by
  have below := nesting_group_le_iff.1 (Nat.le_of_eq nesting_group) member isMember
  rw [nesting_group]
  exact Nat.lt_succ_of_le below

/-! ## As values -/

/-- A tree as a JSON value. -/
def toValue : ColorToken → Json.Value := fold .string .object

theorem toValue_group (members : List (String × ColorToken)) : toValue (.group members) =
    .object (members.map fun member => (member.1, member.2.toValue)) :=
  fold_group _ _ members

/-- A new name goes to the end. -/
theorem put_of_notMem (new : name ∉ found.map (·.1)) :
    put name token found = found ++ [(name, token)] := by
  induction found with
  | nil => rfl
  | cons entry later ih =>
    rw [List.map_cons, List.mem_cons, not_or] at new
    rw [put, if_neg (Ne.symm new.1), ih new.2, List.cons_append]

/-- Members with new names are found in their order. -/
theorem ofMembers?_map (found : List (String × ColorToken))
    (each : ∀ member ∈ members, ofValue? member.2.toValue = some member.2)
    (distinct : ((found ++ members).map (·.1)).Nodup) :
    ofMembers? found (members.map fun member => (member.1, member.2.toValue)) =
      some (found ++ members) := by
  induction members generalizing found with
  | nil => rw [List.map_nil, ofMembers?, List.append_nil]
  | cons member later ih =>
    obtain ⟨first, others⟩ := List.forall_mem_cons.1 each
    rw [List.append_cons] at distinct
    have new : member.1 ∉ found.map (·.1) := by
      rw [List.map_append, List.nodup_append] at distinct
      rw [List.map_append, List.nodup_append] at distinct
      exact fun old => distinct.1.2.2 _ old _ (List.mem_singleton_self _) rfl
    rw [List.map_cons, ofMembers?, ofMember?, first]
    change ofMembers? (put member.1 member.2 found) _ = _
    rw [put_of_notMem new, ih _ others distinct, ← List.append_cons]

/-- A tree whose names differ is found in its value. -/
theorem ofValue?_toValue (keyed : token.Keyed) : ofValue? token.toValue = some token := by
  induction token using induction with
  | color text => rfl
  | group members ih =>
    obtain ⟨distinct, each⟩ := keyed_group_iff.1 keyed
    have found := ofMembers?_map [] (fun member isMember => ih member isMember (each _ isMember)) distinct
    rw [toValue_group, ofValue?, found]
    rfl

/-! ## As themes -/

/-- The tree in a group with the name. -/
def child? (name : String) : ColorToken → Option ColorToken
  | .color _ => none
  | .group members => members.lookup name

/-- The tree of the colours in a theme. -/
def themeColors? (token : ColorToken) : Option ColorToken := do
  let theme ← token.child? "theme"
  theme.child? "colors"

/-- A tree is a theme of the colours when it is a group with a group `theme` that has the colours as
its `colors`. -/
def IsThemeOf (token colors : ColorToken) : Prop :=
  ∃ top theme, token = .group top ∧ ("theme", .group theme) ∈ top ∧ ("colors", colors) ∈ theme

/-- Where names differ, a child is a member of the group. -/
theorem child?_eq_some_iff (keyed : token.Keyed) :
    token.child? name = some inner ↔ ∃ members, token = .group members ∧ (name, inner) ∈ members := by
  cases token with
  | color text => simp [child?]
  | group members =>
    rw [child?, lookup_eq_some_iff_mem (List.pairwise_map.1 (keyed_group_iff.1 keyed).1)]
    simp

theorem Keyed.of_child? (keyed : token.Keyed) (isChild : token.child? name = some inner) :
    inner.Keyed := by
  obtain ⟨members, rfl, isMember⟩ := (child?_eq_some_iff keyed).1 isChild
  exact (keyed_group_iff.1 keyed).2 _ isMember

theorem themeColors?_eq_some_iff (keyed : token.Keyed) :
    token.themeColors? = some inner ↔ token.IsThemeOf inner := by
  refine Option.bind_eq_some_iff.trans ⟨?_, ?_⟩
  · rintro ⟨theme, isTheme, areColors⟩
    obtain ⟨inside, rfl, isMember⟩ := (child?_eq_some_iff (keyed.of_child? isTheme)).1 areColors
    obtain ⟨top, rfl, isTop⟩ := (child?_eq_some_iff keyed).1 isTheme
    exact ⟨top, inside, rfl, isTop, isMember⟩
  · rintro ⟨top, theme, rfl, isTheme, areColors⟩
    have found := (child?_eq_some_iff keyed).2 ⟨top, rfl, isTheme⟩
    exact ⟨_, found, (child?_eq_some_iff (keyed.of_child? found)).2 ⟨theme, rfl, areColors⟩⟩

/-- No tree is among the colours of its own theme. -/
theorem not_isThemeOf_self (token : ColorToken) : ¬token.IsThemeOf token := by
  rintro ⟨top, theme, isTop, isTheme, areColors⟩
  have first := nesting_lt_group isTheme
  have second := nesting_lt_group areColors
  rw [← isTop] at first
  exact Nat.lt_asymm first second

/-- Where names differ, the one value with a name is that of the first tree with it. -/
theorem onlyMember?_map (distinct : (members.map (·.1)).Nodup) :
    onlyMember? name (members.map fun member => (member.1, member.2.toValue)) =
      (members.lookup name).map toValue := by
  induction members with
  | nil => rfl
  | cons member later ih =>
    obtain ⟨name', token⟩ := member
    obtain ⟨new, distinct⟩ := List.nodup_cons.1 distinct
    by_cases here : name' = name
    · subst here
      have others : (later.map fun member => (member.1, member.2.toValue)).filter (·.1 == name') =
          [] := by
        rw [List.filter_eq_nil_iff, List.forall_mem_map]
        exact fun other isOther same => new (List.mem_map.2 ⟨other, isOther, beq_iff_eq.1 same⟩)
      simp [onlyMember?, others]
    · have elsewhere := ih distinct
      simp only [onlyMember?, List.map_cons] at elsewhere ⊢
      rw [List.filter_cons_of_neg (by simpa using here), elsewhere, List.lookup_cons,
        beq_eq_false_iff_ne.2 (Ne.symm here)]

/-- A child is found in the value of its group. -/
theorem onlyMember?_bind_ofValue? (keyed : Keyed (.group members)) :
    (onlyMember? name (members.map fun member => (member.1, member.2.toValue))).bind ofValue? =
      child? name (.group members) := by
  rw [onlyMember?_map (keyed_group_iff.1 keyed).1]
  cases isChild : child? name (.group members) with
  | none =>
    rw [child?] at isChild
    rw [isChild]
    rfl
  | some inner =>
    have found := ofValue?_toValue (keyed.of_child? isChild)
    rw [child?] at isChild
    rw [isChild, Option.map_some, Option.bind_some, found]

/-- The colours of a tree's theme are found in its value. -/
theorem ofTheme?_toValue (keyed : token.Keyed) : ofTheme? token.toValue = token.themeColors? := by
  cases token with
  | color text => rfl
  | group members =>
    rw [toValue_group, ofTheme?, onlyMember?_map (keyed_group_iff.1 keyed).1, themeColors?]
    cases isTheme : child? "theme" (.group members) with
    | none =>
      rw [child?] at isTheme
      rw [isTheme]
      rfl
    | some theme =>
      have keyedTheme := keyed.of_child? isTheme
      rw [child?] at isTheme
      rw [isTheme, Option.map_some]
      cases theme with
      | color text => rfl
      | group inside =>
        rw [toValue_group]
        exact onlyMember?_bind_ofValue? keyedTheme

/-! ## As texts -/

/-- What is written of a further member. -/
def writtenNext (member : String × ColorToken) : List Char := ',' :: writtenMember member

theorem writtenMembers_cons (member : String × ColorToken) (later : List (String × ColorToken)) :
    writtenMembers (member :: later) = writtenMember member ++ later.flatMap writtenNext := by
  induction later generalizing member with
  | nil => rw [writtenMembers, List.flatMap_nil, List.append_nil]
  | cons next later ih =>
    rw [writtenMembers, ih, List.flatMap_cons, writtenNext, List.cons_append]
    exact fun none => List.cons_ne_nil _ _ none

theorem writtenMember_append (member : String × ColorToken) (text : List Char) :
    writtenMember member ++ text = Json.writtenString member.1 ++ ':' :: (member.2.written ++ text) := by
  rw [writtenMember, List.append_assoc, List.cons_append]

variable {budget : Nat} {text : List Char} {entries between : List (String × Json.Value)}

/-- A member is read back with its value. -/
theorem reads_writtenMember (isFirst : Bool)
    (reads : ∀ rest, Yields (.value depth) (member.2.written ++ rest) member.2.toValue rest)
    (onward : Yields (.members (.value depth) budget false ((member.1, member.2.toValue) :: between))
      text entries rest) :
    Yields (.members (.value depth) (budget + 1) isFirst between)
      ((if isFirst then [] else [',']) ++ (writtenMember member ++ text)) entries rest := by
  have whole := Yields.member_written member.1 (reads text)
  rw [Yields.writtenString_append] at whole
  rw [writtenMember_append, Yields.writtenString_append]
  exact Yields.members_cons isFirst [] rfl whole onward

/-- The members after one that was read are read back up to the closing brace. -/
theorem reads_writtenNext (between : List (String × Json.Value))
    (reads : ∀ member ∈ members, ∀ rest,
      Yields (.value depth) (member.2.written ++ rest) member.2.toValue rest)
    (enough : members.length < budget) :
    Yields (.members (.value depth) budget false between)
      (members.flatMap writtenNext ++ '\x7d' :: rest)
      (between.reverse ++ members.map fun member => (member.1, member.2.toValue))
      ('\x7d' :: rest) := by
  induction members generalizing budget between with
  | nil =>
    obtain ⟨budget, rfl⟩ := Nat.exists_eq_add_of_lt enough
    rw [List.map_nil, List.append_nil]
    exact Yields.members_nil false [] rfl
  | cons member later ih =>
    cases budget with
    | zero => exact absurd enough (Nat.not_lt_zero _)
    | succ budget =>
      obtain ⟨first, others⟩ := List.forall_mem_cons.1 reads
      have onward := ih ((member.1, member.2.toValue) :: between) others
        (Nat.lt_of_succ_lt_succ enough)
      rw [List.reverse_cons, List.append_assoc] at onward
      rw [List.flatMap_cons, List.append_assoc]
      exact reads_writtenMember false first onward

/-- A tree is read back as its value where groups may nest as deep. -/
theorem reads_written (shallow : token.nesting ≤ depth) :
    Yields (.value (depth + 1)) (token.written ++ rest) token.toValue rest := by
  induction token using induction generalizing depth rest with
  | color text => exact Yields.value_written_string text
  | group members ih =>
    cases depth with
    | zero => exact absurd shallow (by rw [nesting_group]; exact Nat.not_succ_le_zero _)
    | succ depth =>
      have inside := nesting_group_le_iff.1 shallow
      have reads : ∀ member ∈ members, ∀ rest,
          Yields (.value (depth + 1)) (member.2.written ++ rest) member.2.toValue rest :=
        fun member isMember rest => ih member isMember (inside member isMember)
      have braces : (group members).written ++ rest =
          '\x7b' :: (writtenMembers members ++ '\x7d' :: rest) := by
        simp [written]
      rw [toValue_group, braces]
      refine Yields.value_object (Yields.object_members fun budget enough => ?_)
      cases members with
      | nil =>
        obtain ⟨budget, rfl⟩ := Nat.exists_eq_add_of_lt enough
        exact Yields.members_nil true [] rfl
      | cons member later =>
        obtain ⟨first, others⟩ := List.forall_mem_cons.1 reads
        have size : later.length ≤ byteLength (later.flatMap writtenNext) :=
          Yields.length_le_byteLength_flatMap (fun _ => List.cons_ne_nil _ _) later
        rw [writtenMembers_cons, byteLength_append, byteLength_append, byteLength_cons] at enough
        have brace := Char.utf8Size_pos '\x7d'
        obtain ⟨budget, rfl⟩ := Nat.exists_eq_add_of_lt (Nat.zero_lt_of_lt enough)
        rw [writtenMembers_cons, List.append_assoc]
        exact reads_writtenMember true first (reads_writtenNext _ others (by omega))

variable {fault : Json.Fault}

/-- A member is refused with its value. -/
theorem refuses_writtenMember (isFirst : Bool)
    (refused : ∀ rest, Refuses (.value depth) (member.2.written ++ rest) fault) :
    Refuses (.members (.value depth) (budget + 1) isFirst between)
      ((if isFirst then [] else [',']) ++ (writtenMember member ++ text)) fault := by
  have whole := Refuses.member_written member.1 (refused text)
  rw [Yields.writtenString_append] at whole
  rw [writtenMember_append, Yields.writtenString_append]
  exact Refuses.members_cons isFirst [] rfl whole.bind

/-- Members are refused with those after one that is read. -/
theorem refuses_after_writtenMember (isFirst : Bool)
    (reads : ∀ rest, Yields (.value depth) (member.2.written ++ rest) member.2.toValue rest)
    (refused : Refuses (.members (.value depth) budget false ((member.1, member.2.toValue) :: between))
      text fault) :
    Refuses (.members (.value depth) (budget + 1) isFirst between)
      ((if isFirst then [] else [',']) ++ (writtenMember member ++ text)) fault := by
  have whole := Yields.member_written member.1 (reads text)
  rw [Yields.writtenString_append] at whole
  rw [writtenMember_append, Yields.writtenString_append]
  exact Refuses.members_cons isFirst [] rfl (.after whole refused)

/-- Members are refused when one of them is too deep. -/
theorem refuses_members {next : String × ColorToken} {later : List (String × ColorToken)}
    (isFirst : Bool)
    (refuses : ∀ member ∈ next :: later, depth < member.2.nesting → ∀ rest,
      Refuses (.value (depth + 1)) (member.2.written ++ rest) .tooDeep)
    (deep : ∃ member ∈ next :: later, depth < member.2.nesting) (enough : later.length < budget) :
    Refuses (.members (.value (depth + 1)) budget isFirst between)
      ((if isFirst then [] else [',']) ++
        (writtenMember next ++ (later.flatMap writtenNext ++ text))) .tooDeep := by
  obtain ⟨budget, rfl⟩ := Nat.exists_eq_add_of_lt (Nat.zero_lt_of_lt enough)
  rw [Nat.zero_add] at enough ⊢
  induction later generalizing next isFirst budget between with
  | nil =>
    obtain ⟨member, isMember, deep⟩ := deep
    obtain rfl := List.mem_singleton.1 isMember
    exact refuses_writtenMember isFirst (refuses member isMember deep)
  | cons further later ih =>
    by_cases here : depth < next.2.nesting
    · exact refuses_writtenMember isFirst (refuses next List.mem_cons_self here)
    · refine refuses_after_writtenMember isFirst (fun _ => reads_written (Nat.not_lt.1 here)) ?_
      obtain ⟨budget, rfl⟩ := Nat.exists_eq_add_of_lt (Nat.zero_lt_of_lt (Nat.lt_of_succ_lt_succ enough))
      rw [Nat.zero_add] at enough ⊢
      rw [List.flatMap_cons, List.append_assoc]
      refine ih false (fun member isLater => refuses member (List.mem_cons_of_mem _ isLater)) ?_ budget
        (Nat.lt_of_succ_lt_succ enough)
      obtain ⟨member, isMember, deep⟩ := deep
      rcases List.mem_cons.1 isMember with rfl | isLater
      · exact absurd deep here
      · exact ⟨member, isLater, deep⟩

/-- A tree is refused where groups may not nest as deep. -/
theorem refuses_written (deep : depth < token.nesting) :
    Refuses (.value (depth + 1)) (token.written ++ rest) .tooDeep := by
  induction token using induction generalizing depth rest with
  | color text => exact absurd deep (Nat.not_lt_zero _)
  | group members ih =>
    have braces : (group members).written ++ rest =
        '\x7b' :: (writtenMembers members ++ '\x7d' :: rest) := by
      simp [written]
    rw [braces]
    cases depth with
    | zero => exact .after (Yields.peekAfterSpaces [] rfl (by simp [Json.Reader.isSpace])) (.failNext _ _)
    | succ depth =>
      obtain ⟨member, isMember, inside⟩ : ∃ member ∈ members, depth < member.2.nesting := by
        by_contra none
        push Not at none
        exact Nat.not_lt.2 (nesting_group_le_iff.2 none) deep
      refine Refuses.value_object fun budget enough => ?_
      cases members with
      | nil => cases isMember
      | cons next later =>
        have size : later.length ≤ byteLength (later.flatMap writtenNext) :=
          Yields.length_le_byteLength_flatMap (fun _ => List.cons_ne_nil _ _) later
        rw [writtenMembers_cons, byteLength_append, byteLength_append, byteLength_cons] at enough
        rw [writtenMembers_cons, List.append_assoc]
        exact refuses_members true (fun member isMember deep rest => ih member isMember deep)
          ⟨member, isMember, inside⟩ (by omega)

/-- The text of a tree gives its theme's colours, or the tree if it has none. -/
theorem parse_toJson (keyed : token.Keyed) (shallow : token.nesting < 128) :
    parse token.toJson = .ok (token.themeColors?.getD token) := by
  refine Json.readAll_eq_ok ?_
  rw [toJson, String.toList_ofList, ← List.append_nil token.written]
  refine Yields.bind (reads_written (Nat.le_of_lt_succ shallow)) ?_
  rw [ofTheme?_toValue keyed, ofValue?_toValue keyed]
  cases token.themeColors? <;> exact Yields.pure _ _

/-- A tree whose groups nest deeper than JSON is read does not come back. -/
theorem exists_parse_toJson_eq_error (deep : 128 ≤ token.nesting) :
    ∃ place, parse token.toJson = .error ⟨.tooDeep, place⟩ := by
  refine Json.exists_readAll_eq_error ?_
  rw [toJson, String.toList_ofList, ← List.append_nil token.written]
  exact (refuses_written deep).bind

/-- A tree that is written comes back as it was, unless it is a theme, which comes back as its
colours. -/
theorem parse_toJson_eq_self_iff (keyed : token.Keyed) (shallow : token.nesting < 128) :
    (parse token.toJson = .ok token ↔ ¬∃ colors, token.IsThemeOf colors) ∧
      ∀ colors, token.IsThemeOf colors → parse token.toJson = .ok colors := by
  have read := parse_toJson keyed shallow
  have ofTheme : ∀ colors, token.IsThemeOf colors → parse token.toJson = .ok colors := by
    intro colors isTheme
    rw [read, (themeColors?_eq_some_iff keyed).2 isTheme, Option.getD_some]
  refine ⟨⟨?_, fun noTheme => ?_⟩, ofTheme⟩
  · rintro same ⟨colors, isTheme⟩
    obtain rfl : token = colors := Except.ok.inj (same.symm.trans (ofTheme colors isTheme))
    exact not_isThemeOf_self token isTheme
  · cases isTheme : token.themeColors? with
    | none => rw [read, isTheme, Option.getD_none]
    | some colors => exact absurd ⟨colors, (themeColors?_eq_some_iff keyed).1 isTheme⟩ noTheme

/-- Colours inside a theme, and outside of one. -/
def palette : ColorToken :=
  .group [("ink", .group [("900", .color "#111"), ("\"50\"", .color "")]), ("none", .group [])]

/-- The palette where a theme has its colours. -/
def themedPalette : ColorToken :=
  .group [("name", .color "dark"), ("theme", .group [("size", .color "4px"), ("colors", palette)])]

/-- The palette beside a theme without colours. -/
def plainPalette : ColorToken :=
  .group [("theme", .group [("colours", palette)]), ("colors", palette), ("a", .color "\\\n")]

/-- A theme comes back as its colours, and a tree that only looks like one comes back whole. -/
theorem parse_toJson_palettes :
    parse themedPalette.toJson = .ok palette ∧ parse plainPalette.toJson = .ok plainPalette := by
  have themed : themedPalette.Keyed := by simp [themedPalette, palette]
  have plain : plainPalette.Keyed := by simp [plainPalette, palette]
  constructor
  · exact (parse_toJson_eq_self_iff themed (by decide)).2 palette
      ⟨_, [("size", .color "4px"), ("colors", palette)], rfl, by simp, by simp⟩
  · refine (parse_toJson_eq_self_iff plain (by decide)).1.2 ?_
    rintro ⟨colors, top, theme, isTop, isTheme, areColors⟩
    simp only [plainPalette, group.injEq] at isTop
    subst isTop
    simp at isTheme
    subst isTheme
    simp at areColors

end ClassRename.ColorToken
