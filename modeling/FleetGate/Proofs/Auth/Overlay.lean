import FleetGate.Proofs.Auth.Chain

/-!
# Contexts laid over each other

Callers hold mappings and go on writing to them; from mappings and from other contexts they make
contexts. A `Sharing` is all of this at one time, and a `Move` is one more thing that a caller does.
Only the mappings that callers hold are ever written over, and no context keeps one of these
(`Sharing.Sound`), so every context answers for good as it did when it was made: with its own values
laid over those of its parent (`Sharing.contexts_overlay`).

One making fails. A mapping whose values are given one by one by name cannot have the name by which
a context calls itself.
-/

namespace FleetGate

theorem Context.get?_extend {added : Entries Value} (distinct : (added.map Prod.fst).Nodup)
    (context : Context) (key : Text) :
    (context.extend added).get? key = (Entries.find key added).or (context.get? key) :=
  Entries.find_putAll distinct key context.entries

namespace Dictionaries

/-- The names in a dictionary differ. -/
def AreDistinct (dictionaries : Dictionaries) : Prop :=
  ∀ address entries, dictionaries.get? address = some entries → (entries.map Prod.fst).Nodup

variable {dictionaries : Dictionaries} {added : Entries Value}

theorem AreDistinct.nodup (distinct : dictionaries.AreDistinct) (address : Address) :
    ((dictionaries.entries address).map Prod.fst).Nodup := by
  rw [Dictionaries.entries]
  cases found : dictionaries.get? address with
  | none => simp
  | some entries => exact distinct address entries found

theorem AreDistinct.add (distinct : dictionaries.AreDistinct)
    (own : (added.map Prod.fst).Nodup) : (dictionaries.add added).1.AreDistinct := by
  intro address entries found
  simp only [Dictionaries.add, Objects.make, Objects.get?, List.getElem?_append] at found
  split at found
  · exact distinct address entries found
  · rcases List.getElem?_eq_some_iff.1 found with ⟨inside, same⟩
    simp only [List.length_singleton, Nat.lt_one_iff] at inside
    simp only [inside, List.getElem_singleton] at same
    rwa [← same]

theorem AreDistinct.makeContext (distinct : dictionaries.AreDistinct) (source : Address) :
    (dictionaries.makeContext source).1.AreDistinct :=
  distinct.add (distinct.nodup source)

theorem AreDistinct.extend (distinct : dictionaries.AreDistinct) (base : Address)
    (added : Entries Value) : (dictionaries.extend base added).1.AreDistinct :=
  (distinct.add (Entries.nodup_putAll (distinct.nodup base) added)).makeContext _

theorem AreDistinct.write (distinct : dictionaries.AreDistinct)
    (own : (added.map Prod.fst).Nodup) (address : Address) :
    AreDistinct (Objects.write dictionaries address added) := by
  intro other entries found
  by_cases same : other = address
  · subst same
    simp only [Objects.get?, Objects.write] at found
    rcases List.getElem?_eq_some_iff.1 found with ⟨inside, written⟩
    rw [List.getElem_set_self] at written
    rwa [← written]
  · rw [Objects.get?_write_other same] at found
    exact distinct other entries found

/-- Nothing stood before where a copy of a new dictionary is put. -/
theorem get?_copy (dictionaries : Dictionaries) (added : Entries Value) :
    dictionaries.get?
      ((dictionaries.add added).1.makeContext (dictionaries.add added).2).2 = none := by
  simp [makeContext, Dictionaries.add, Objects.make, Objects.get?, Objects.next]

end Dictionaries

/-- How a context is made: from nothing or from a mapping, or as a child with the values of a
mapping given one by one or with a principal. A mapping may also be what another context keeps. -/
inductive Making where
  | new (source : Option Address)
  | withValues (base source : Address)
  | attach (base : Address) (principal identifier account : Value)

namespace Making

/-- Makes the context. -/
def perform (dictionaries : Dictionaries) : Making → Except Fault (Dictionaries × Address)
  | .new none =>
    let (more, source) := dictionaries.add []
    .ok (more.makeContext source)
  | .new (some source) => .ok (dictionaries.makeContext source)
  | .withValues base source => dictionaries.withValues base (dictionaries.entries source)
  | .attach base principal identifier account =>
    .ok (dictionaries.attach base principal identifier account)

/-- The values that a making sets itself. -/
def own (dictionaries : Dictionaries) : Making → Entries Value
  | .new none => []
  | .new (some source) | .withValues _ source => dictionaries.entries source
  | .attach _ principal identifier account =>
    [(Context.principalKey, principal), (Context.identifierKey, identifier),
      (Context.accountKey, account)]

/-- The context whose values are taken over. -/
def parent (dictionaries : Dictionaries) : Making → Context
  | .new _ => .empty
  | .withValues base _ | .attach base _ _ _ => dictionaries.contextAt base

/-- A value is given by the name by which a context calls itself. -/
def GivesSelf (dictionaries : Dictionaries) : Making → Prop
  | .withValues _ source => Text.ofString "self" ∈ (dictionaries.entries source).map Prod.fst
  | .new _ | .attach _ _ _ _ => False

/-- The complaint about such a value. -/
def selfFault : Fault :=
  ⟨.wrongType, "RequestContext.with_values() got multiple values for argument 'self'"⟩

variable {dictionaries : Dictionaries}

theorem nodup_own (distinct : dictionaries.AreDistinct) (making : Making) :
    ((making.own dictionaries).map Prod.fst).Nodup := by
  cases making with
  | new source =>
      cases source with
      | none => exact List.nodup_nil
      | some source => exact distinct.nodup source
  | withValues base source => exact distinct.nodup source
  | attach base principal identifier account =>
      have different : [Context.principalKey, Context.identifierKey, Context.accountKey].Nodup := by
        decide
      exact different

/-- What a making leaves: everything as it was, and a context of its own in a place where nothing
stood. -/
structure Makes (dictionaries : Dictionaries) (making : Making) (after : Dictionaries)
    (child : Address) : Prop where
  keeps : dictionaries.Keeps after
  fresh : dictionaries.get? child = none
  distinct : after.AreDistinct
  stands : after.get? child =
    some ((making.parent dictionaries).extend (making.own dictionaries)).entries

theorem extend_empty (distinct : dictionaries.AreDistinct) (making : Making) :
    (Context.empty.extend (making.own dictionaries)).entries = making.own dictionaries :=
  Entries.putAll_nil (nodup_own distinct making)

theorem makes_new (distinct : dictionaries.AreDistinct) (source : Address) :
    (Making.new (some source)).Makes dictionaries (dictionaries.makeContext source).1
      (dictionaries.makeContext source).2 where
  keeps := Objects.keeps_make dictionaries _
  fresh := Objects.get?_next dictionaries
  distinct := distinct.makeContext source
  stands := by
    rw [Dictionaries.get?_makeContext, parent, extend_empty distinct]
    rfl

/-- Without a mapping a context is made from a new one with nothing in it. -/
theorem makes_new_none (distinct : dictionaries.AreDistinct) :
    (Making.new none).Makes dictionaries
      ((dictionaries.add []).1.makeContext (dictionaries.add []).2).1
      ((dictionaries.add []).1.makeContext (dictionaries.add []).2).2 where
  keeps := (Objects.keeps_make dictionaries []).trans (Objects.keeps_make _ _)
  fresh := Dictionaries.get?_copy dictionaries []
  distinct := (distinct.add (by simp)).makeContext _
  stands := by
    rw [Dictionaries.get?_makeContext, Dictionaries.entries_add]
    rfl

theorem makes_extend (distinct : dictionaries.AreDistinct) {making : Making} {base : Address}
    (parent : making.parent dictionaries = dictionaries.contextAt base) :
    making.Makes dictionaries (dictionaries.extend base (making.own dictionaries)).1
      (dictionaries.extend base (making.own dictionaries)).2 where
  keeps := Dictionaries.keeps_extend dictionaries base _
  fresh := Dictionaries.get?_copy dictionaries _
  distinct := distinct.extend base _
  stands := by rw [Dictionaries.get?_extend, parent]

/-- A making succeeds unless it gives a value by the name by which a context calls itself. -/
theorem perform_spec (distinct : dictionaries.AreDistinct) (making : Making) :
    (making.GivesSelf dictionaries ∧ making.perform dictionaries = .error selfFault) ∨
      (¬making.GivesSelf dictionaries ∧
        ∃ after child, making.perform dictionaries = .ok (after, child) ∧
          making.Makes dictionaries after child) := by
  cases making with
  | new source =>
      refine .inr ⟨id, ?_⟩
      cases source with
      | none => exact ⟨_, _, rfl, makes_new_none distinct⟩
      | some source => exact ⟨_, _, rfl, makes_new distinct source⟩
  | withValues base source =>
      have named : (dictionaries.entries source).any (·.1 == Context.reservedKey) = true ↔
          (Making.withValues base source).GivesSelf dictionaries := by
        simp [GivesSelf, Context.reservedKey]
      by_cases self : (Making.withValues base source).GivesSelf dictionaries
      · refine .inl ⟨self, ?_⟩
        rw [perform, Dictionaries.withValues, Context.withValues, if_pos (named.2 self)]
        rfl
      · refine .inr ⟨self, _, _, ?_, makes_extend distinct rfl⟩
        rw [perform, Dictionaries.withValues, Context.withValues, if_neg (mt named.1 self)]
        rfl
  | attach base principal identifier account =>
      exact .inr ⟨id, _, _, rfl, makes_extend distinct rfl⟩

end Making

/-- All that callers and contexts hold. -/
structure Sharing where
  dictionaries : Dictionaries
  held : List Address
  contexts : List Address

/-- What a caller does next: he takes up a mapping, writes over one that he holds, or makes a
context. -/
inductive Move where
  | hold (entries : Entries Value)
  | edit (mapping : Address) (entries : Entries Value)
  | make (making : Making)

namespace Sharing

/-- Nothing is held yet. -/
def empty : Sharing := ⟨.empty, [], []⟩

/-- A mapping is what a caller holds or what a context shows. -/
def IsMapping (sharing : Sharing) (address : Address) : Prop :=
  address ∈ sharing.held ∨ address ∈ sharing.contexts

/-- A move is about contexts and mappings that there are, and the names in a mapping differ. -/
def Allows (sharing : Sharing) : Move → Prop
  | .hold entries => (entries.map Prod.fst).Nodup
  | .edit mapping entries => mapping ∈ sharing.held ∧ (entries.map Prod.fst).Nodup
  | .make (.new source) => ∀ mapping ∈ source, sharing.IsMapping mapping
  | .make (.withValues base source) => base ∈ sharing.contexts ∧ sharing.IsMapping source
  | .make (.attach base _ _ _) => base ∈ sharing.contexts

/-- After one more move. A making that fails changes nothing. -/
def step (sharing : Sharing) : Move → Sharing
  | .hold entries =>
    let (after, mapping) := sharing.dictionaries.add entries
    ⟨after, mapping :: sharing.held, sharing.contexts⟩
  | .edit mapping entries =>
    { sharing with dictionaries := Objects.write sharing.dictionaries mapping entries }
  | .make making =>
    match making.perform sharing.dictionaries with
    | .ok (after, child) => ⟨after, sharing.held, child :: sharing.contexts⟩
    | .error _ => sharing

/-- After moves, one after the other. -/
def run (sharing : Sharing) (moves : List Move) : Sharing :=
  moves.foldl step sharing

/-- Each move is about what there is by then. -/
def AllowsAll (sharing : Sharing) : List Move → Prop
  | [] => True
  | move :: rest => sharing.Allows move ∧ (sharing.step move).AllowsAll rest

theorem allowsAll_append {sharing : Sharing} {front back : List Move} :
    sharing.AllowsAll (front ++ back) ↔
      sharing.AllowsAll front ∧ (sharing.run front).AllowsAll back := by
  induction front generalizing sharing with
  | nil => simp [AllowsAll, run]
  | cons move rest ih =>
      simp only [List.cons_append, AllowsAll, ih, and_assoc, run, List.foldl_cons]

/-- Contexts keep dictionaries that no caller holds. -/
structure Sound (sharing : Sharing) : Prop where
  distinct : sharing.dictionaries.AreDistinct
  held : ∀ mapping ∈ sharing.held, sharing.dictionaries.Knows mapping
  contexts : ∀ context ∈ sharing.contexts, sharing.dictionaries.Knows context
  apart : ∀ context ∈ sharing.contexts, context ∉ sharing.held

/-- The contexts are still there, and answer the same. -/
structure Preserves (before after : Sharing) : Prop where
  contexts : ∀ context ∈ before.contexts, context ∈ after.contexts
  answers : ∀ context ∈ before.contexts,
    after.dictionaries.contextAt context = before.dictionaries.contextAt context

theorem Preserves.refl (sharing : Sharing) : sharing.Preserves sharing :=
  ⟨fun _ listed => listed, fun _ _ => rfl⟩

theorem Preserves.trans {first second third : Sharing} (early : first.Preserves second)
    (late : second.Preserves third) : first.Preserves third where
  contexts context listed := late.contexts context (early.contexts context listed)
  answers context listed :=
    (late.answers context (early.contexts context listed)).trans (early.answers context listed)

theorem Preserves.of_keeps {before after : Sharing} (sound : before.Sound)
    (keeps : before.dictionaries.Keeps after.dictionaries)
    (more : ∀ context ∈ before.contexts, context ∈ after.contexts) : before.Preserves after where
  contexts := more
  answers context listed := Dictionaries.contextAt_of_keeps (sound.contexts context listed) keeps

theorem sound_empty : empty.Sound where
  distinct address entries found := by simp [empty, Objects.empty, Objects.get?] at found
  held mapping listed := by cases listed
  contexts context listed := by cases listed
  apart context listed := by cases listed

variable {sharing : Sharing}

/-- A mapping that a caller takes up is none of the old ones. -/
theorem Sound.hold (sound : sharing.Sound) {entries : Entries Value}
    (distinct : (entries.map Prod.fst).Nodup) :
    (sharing.step (.hold entries)).Sound ∧ sharing.Preserves (sharing.step (.hold entries)) := by
  have keeps := Objects.keeps_make sharing.dictionaries entries
  refine ⟨⟨sound.distinct.add distinct, ?_, ?_, ?_⟩, .of_keeps sound keeps fun _ listed => listed⟩
  · intro mapping listed
    rcases List.mem_cons.1 listed with rfl | old
    · exact ⟨entries, Objects.get?_make_next sharing.dictionaries entries⟩
    · exact (sound.held mapping old).mono keeps
  · exact fun context listed => (sound.contexts context listed).mono keeps
  · intro context listed isHeld
    rcases List.mem_cons.1 isHeld with rfl | old
    · rcases sound.contexts _ listed with ⟨stored, found⟩
      rw [Objects.get?_next] at found
      cases found
    · exact sound.apart context listed old

/-- Writing over a mapping that a caller holds reaches no context. -/
theorem Sound.edit (sound : sharing.Sound) {mapping : Address} {entries : Entries Value}
    (isHeld : mapping ∈ sharing.held) (distinct : (entries.map Prod.fst).Nodup) :
    (sharing.step (.edit mapping entries)).Sound ∧
      sharing.Preserves (sharing.step (.edit mapping entries)) := by
  have same {context : Address} (listed : context ∈ sharing.contexts) :
      (Objects.write sharing.dictionaries mapping entries).get? context =
        sharing.dictionaries.get? context := by
    refine Objects.get?_write_other ?_ _ _
    rintro rfl
    exact sound.apart context listed isHeld
  refine ⟨⟨sound.distinct.write distinct mapping, ?_, ?_, sound.apart⟩,
    ⟨fun _ listed => listed, ?_⟩⟩
  · intro other listed
    by_cases own : other = mapping
    · subst own
      rcases sound.held other listed with ⟨stored, found⟩
      exact ⟨entries, Objects.get?_write_same found entries⟩
    · rcases sound.held other listed with ⟨stored, found⟩
      exact ⟨stored, (Objects.get?_write_other own _ _).trans found⟩
  · intro context listed
    rcases sound.contexts context listed with ⟨stored, found⟩
    exact ⟨stored, (same listed).trans found⟩
  · intro context listed
    rw [Dictionaries.contextAt, Dictionaries.contextAt, Dictionaries.entries, Dictionaries.entries]
    exact congrArg (fun found => Context.mk (found.getD [])) (same listed)

/-- A context that is made keeps a dictionary of its own. -/
theorem Sound.make (sound : sharing.Sound) (making : Making) :
    (sharing.step (.make making)).Sound ∧ sharing.Preserves (sharing.step (.make making)) := by
  rcases making.perform_spec sound.distinct with ⟨_, failed⟩ | ⟨_, after, child, made, makes⟩
  · rw [Sharing.step, failed]
    exact ⟨sound, .refl sharing⟩
  · rw [Sharing.step, made]
    refine ⟨⟨makes.distinct, fun mapping listed => (sound.held mapping listed).mono makes.keeps,
      ?_, ?_⟩, .of_keeps sound makes.keeps fun _ listed => List.mem_cons_of_mem child listed⟩
    · intro context listed
      rcases List.mem_cons.1 listed with rfl | old
      · exact ⟨_, makes.stands⟩
      · exact (sound.contexts context old).mono makes.keeps
    · intro context listed isHeld
      rcases List.mem_cons.1 listed with rfl | old
      · rcases sound.held context isHeld with ⟨stored, found⟩
        rw [makes.fresh] at found
        cases found
      · exact sound.apart context old isHeld

theorem Sound.step (sound : sharing.Sound) {move : Move} (allowed : sharing.Allows move) :
    (sharing.step move).Sound ∧ sharing.Preserves (sharing.step move) := by
  cases move with
  | hold entries => exact sound.hold allowed
  | edit mapping entries => exact sound.edit allowed.1 allowed.2
  | make making => exact sound.make making

/-- Moves leave all contexts as they are. -/
theorem Sound.run (sound : sharing.Sound) {moves : List Move} (allowed : sharing.AllowsAll moves) :
    (sharing.run moves).Sound ∧ sharing.Preserves (sharing.run moves) := by
  induction moves generalizing sharing with
  | nil => exact ⟨sound, .refl sharing⟩
  | cons move rest ih =>
      rcases sound.step allowed.1 with ⟨soundNext, preserved⟩
      rcases ih soundNext allowed.2 with ⟨soundLast, later⟩
      exact ⟨soundLast, preserved.trans later⟩

theorem run_append (sharing : Sharing) (front back : List Move) :
    sharing.run (front ++ back) = (sharing.run front).run back :=
  List.foldl_append

/-- The context that a making gives answers for a key with its own value where it sets one, and as
its parent otherwise. It goes on doing so, as does every context that was there before, whatever
callers do to their mappings later. A making fails exactly if it gives a value by the name by which
a context calls itself, and then it changes nothing. -/
theorem contexts_overlay {front back : List Move} {making : Making}
    (allowed : empty.AllowsAll (front ++ .make making :: back)) :
    let before := empty.run front
    let after := empty.run (front ++ .make making :: back)
    ((∃ made child, making.perform before.dictionaries = .ok (made, child)) ↔
        ¬making.GivesSelf before.dictionaries) ∧
      (making.GivesSelf before.dictionaries →
        making.perform before.dictionaries = .error Making.selfFault ∧
          before.step (.make making) = before) ∧
      (∀ made child, making.perform before.dictionaries = .ok (made, child) →
        child ∈ after.contexts ∧ ∀ key,
          (after.dictionaries.contextAt child).get? key =
              (Entries.find key (making.own before.dictionaries)).or
                ((making.parent before.dictionaries).get? key) ∧
            (after.dictionaries.contextAt child).contains key =
              ((Entries.find key (making.own before.dictionaries)).isSome ||
                (making.parent before.dictionaries).contains key)) ∧
      ∀ context ∈ before.contexts,
        after.dictionaries.contextAt context = before.dictionaries.contextAt context := by
  intro before after
  rcases allowsAll_append.1 allowed with ⟨allowedFront, allowedMake, allowedBack⟩
  have sound : before.Sound := (sound_empty.run allowedFront).1
  rcases sound.make making with ⟨soundNext, preserved⟩
  have later := (soundNext.run allowedBack).2
  have split : after = (before.step (.make making)).run back := run_append empty front _
  rw [← split] at later
  have old := (preserved.trans later).answers
  rcases making.perform_spec sound.distinct with ⟨self, failed⟩ | ⟨noSelf, made, child, done, makes⟩
  · refine ⟨iff_of_false ?_ (fun noSelf => noSelf self), fun _ => ⟨failed, ?_⟩, ?_, old⟩
    · rintro ⟨made, child, done⟩
      rw [failed] at done
      cases done
    · rw [Sharing.step, failed]
    · intro made child done
      rw [failed] at done
      cases done
  · refine ⟨iff_of_true ⟨made, child, done⟩ noSelf, fun self => absurd self noSelf, ?_, old⟩
    intro own other same
    rw [done] at same
    cases same
    have listed : child ∈ (before.step (.make making)).contexts := by
      rw [Sharing.step, done]
      exact List.mem_cons_self
    have kept := later.answers child listed
    have stands : after.dictionaries.contextAt child =
        (making.parent before.dictionaries).extend (making.own before.dictionaries) := by
      rw [kept, Sharing.step, done, Dictionaries.contextAt, Dictionaries.entries, makes.stands]
      rfl
    refine ⟨later.contexts child listed, fun key => ?_⟩
    have found := Context.get?_extend (making.nodup_own sound.distinct)
      (making.parent before.dictionaries) key
    rw [Context.contains, Context.contains, stands, found]
    exact ⟨rfl, Option.isSome_or⟩

/-- A context is made from a mapping, and a value of another mapping takes the place of its value.
The caller then empties both mappings. -/
theorem replaced_overlay :
    let front : List Move := [.hold [("trace", .data (.int 7)), ("account", .data .null)],
      .make (.new (some 0)), .hold [("trace", .data (.int 8))]]
    let moves := front ++ [.make (.withValues 1 2), .edit 0 [], .edit 2 []]
    empty.AllowsAll moves ∧
      ((empty.run moves).dictionaries.contextAt 4).get? "trace" = some (.data (.int 8)) ∧
      ((empty.run moves).dictionaries.contextAt 4).contains "account" = true ∧
      ((empty.run moves).dictionaries.contextAt 4).contains "self" = false ∧
      (empty.run moves).dictionaries.contextAt 1 =
        ⟨[("trace", .data (.int 7)), ("account", .data .null)]⟩ := by
  intro front moves
  have both : (["trace", "account"] : List Text).Nodup := by decide
  have one : (["trace"] : List Text).Nodup := by decide
  have source : ∀ mapping ∈ some 0, (empty.run [front[0]]).IsMapping mapping := by
    rintro _ ⟨⟩
    exact .inl (.head [])
  have allowed : empty.AllowsAll moves :=
    ⟨both, source, one, ⟨.head [], .inl (.head [0])⟩, ⟨.tail 2 (.head []), List.nodup_nil⟩,
      ⟨.head [0], List.nodup_nil⟩, trivial⟩
  rcases contexts_overlay allowed with ⟨_, _, child, old⟩
  rcases child _ 4 rfl with ⟨_, answers⟩
  exact ⟨allowed, (answers "trace").1, (answers "account").2, (answers "self").2,
    old 1 (.head _)⟩

/-- Of two mappings the second one names a value as a context names itself. -/
theorem self_not_overlaid :
    let front : List Move := [.hold [("trace", .data (.int 7))], .make (.new (some 0)),
      .hold [("self", .data (.int 8))]]
    empty.AllowsAll (front ++ [.make (.withValues 1 2)]) ∧
      ∀ made child,
        (Making.withValues 1 2).perform (empty.run front).dictionaries ≠ .ok (made, child) := by
  intro front
  have first : (["trace"] : List Text).Nodup := by decide
  have second : (["self"] : List Text).Nodup := by decide
  have source : ∀ mapping ∈ some 0, (empty.run [front[0]]).IsMapping mapping := by
    rintro _ ⟨⟩
    exact .inl (.head [])
  refine ⟨⟨first, source, second, ⟨.head [], .inl (.head [0])⟩, trivial⟩, ?_⟩
  rintro made child ⟨⟩

end Sharing

end FleetGate
