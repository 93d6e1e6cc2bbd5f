import ArmLink.Proofs.Wire.Operations

/-!
Readers that are used together.

A reader is cut out of another one, and both are used on, in any order.  What one operation does is
known (`Operation.lawful`, `Operation.wrapped_of_wraps`); here it is carried over to all readers that
come of one run of bytes.  A use moves one reader forward and leaves the others alone
(`Use.on_getElem?`), and what is cut out is a part of what was there (`Use.exists_of_mem_on`).

A part is read like the whole because the bytes ahead decide the answers (`Operation.Answers.unique`),
and of these only the ones up to the reach (`Operation.answers_append`).

Main statement: `reading_of_uses`.
-/

namespace ArmLink.Wire

variable {operation : Operation} {cursor : Cursor} {kind : Kind} {answer other : Answer}
  {ahead behind : List UInt8}

/-! ### One operation -/

namespace Operation

theorem eq_peekAt_of_wraps (wraps : operation.Wraps) :
    ∃ kind offset, operation = .peekAt kind offset := by
  cases operation with
  | peekAt kind offset => exact ⟨kind, offset, rfl⟩
  | _ => exact wraps.elim

/-- An operation that fails changes nothing, whatever its reach. -/
theorem run_of_error {fault : Fault} (failed : (operation.run cursor).answer = .error fault) :
    (operation.run cursor).behind = cursor ∧ (operation.run cursor).slice = none := by
  by_cases wraps : operation.Wraps
  · obtain ⟨kind, offset, rfl⟩ := eq_peekAt_of_wraps wraps
    exact ⟨rfl, rfl⟩
  · exact ((lawful operation cursor wraps).fails fault failed).2

/-- An operation moves a reader forward, and what it cuts out is a part of what was there. -/
theorem keeps (operation : Operation) (cursor : Cursor) :
    (operation.run cursor).behind.bytes = cursor.bytes ∧
      cursor.position ≤ (operation.run cursor).behind.position ∧
        ∀ slice ∈ (operation.run cursor).slice, slice.bytes <:+: cursor.bytes := by
  by_cases wraps : operation.Wraps
  · obtain ⟨kind, offset, rfl⟩ := eq_peekAt_of_wraps wraps
    exact ⟨rfl, Nat.le_refl _, fun _ cut => by cases cut⟩
  cases told : (operation.run cursor).answer with
  | error fault =>
    obtain ⟨behind, slice⟩ := run_of_error told
    rw [behind, slice]
    exact ⟨rfl, Nat.le_refl _, fun _ cut => by cases cut⟩
  | ok answer =>
    obtain ⟨-, bytes, position, slice⟩ := (lawful operation cursor wraps).succeeds answer told
    rw [bytes, position, slice]
    refine ⟨rfl, Nat.le_add_right _ _, fun found cut => ?_⟩
    cases operation with
    | slice count =>
      cases cut
      exact (List.take_prefix count _).isInfix.trans (List.drop_suffix _ _).isInfix
    | _ => cases cut

end Operation

/-! ### Many readers -/

/-- What is done with one of several readers. -/
structure Use where
  reader : Nat
  operation : Operation

/-- The readers after one of them was used.  One that is cut out comes behind the others. -/
def Use.on (readers : List Cursor) (use : Use) : List Cursor :=
  match readers[use.reader]? with
  | none => readers
  | some reader =>
    let reply := use.operation.run reader
    readers.set use.reader reply.behind ++ reply.slice.toList

/-- The reader of some bytes and all that were cut out, after some uses. -/
def readersAfter (bytes : List UInt8) (uses : List Use) : List Cursor :=
  uses.foldl Use.on [.ofBytes bytes]

variable {readers : List Cursor} {bytes : List UInt8} {place : Nat} {reader : Cursor}

namespace Use

theorem on_eq (found : readers[place]? = some reader) (operation : Operation) :
    Use.on readers ⟨place, operation⟩ =
      readers.set place (operation.run reader).behind ++ (operation.run reader).slice.toList := by
  rw [on, found]

/-- A use moves one reader forward and leaves the others alone. -/
theorem on_getElem? (found : readers[place]? = some reader) (use : Use) :
    ∃ moved, (use.on readers)[place]? = some moved ∧ moved.bytes = reader.bytes ∧
      reader.position ≤ moved.position ∧ (place ≠ use.reader → moved = reader) := by
  obtain ⟨used, operation⟩ := use
  cases foundUsed : readers[used]? with
  | none => exact ⟨reader, by rw [on, foundUsed]; exact found, rfl, Nat.le_refl _, fun _ => rfl⟩
  | some usedReader =>
    have inside := (List.getElem?_eq_some_iff.mp found).1
    obtain ⟨bytes, position, -⟩ := operation.keeps usedReader
    rw [on_eq foundUsed, List.getElem?_append_left (by rwa [List.length_set])]
    by_cases same : place = used
    · subst same
      obtain rfl := Option.some.inj (found.symm.trans foundUsed)
      rw [List.getElem?_set_self inside]
      exact ⟨_, rfl, bytes, position, fun differ => absurd rfl differ⟩
    · rw [List.getElem?_set_ne (Ne.symm same)]
      exact ⟨reader, found, rfl, Nat.le_refl _, fun _ => rfl⟩

/-- After a use, each reader has a part of the bytes that one had before. -/
theorem exists_of_mem_on {use : Use} (mem : reader ∈ use.on readers) :
    ∃ before ∈ readers, reader.bytes <:+: before.bytes := by
  obtain ⟨place, operation⟩ := use
  cases found : readers[place]? with
  | none =>
    rw [on, found] at mem
    exact ⟨reader, mem, List.infix_rfl⟩
  | some used =>
    obtain ⟨bytes, -, slices⟩ := operation.keeps used
    have usedMem : used ∈ readers := List.mem_of_getElem? found
    rw [on_eq found, List.mem_append, Option.mem_toList] at mem
    rcases mem with old | cut
    · rcases List.mem_or_eq_of_mem_set old with old | rfl
      · exact ⟨reader, old, List.infix_rfl⟩
      · exact ⟨used, usedMem, bytes ▸ List.infix_rfl⟩
    · exact ⟨used, usedMem, slices reader cut⟩

theorem onward (found : readers[place]? = some reader) (uses : List Use) :
    ∃ moved, (uses.foldl on readers)[place]? = some moved ∧ moved.bytes = reader.bytes ∧
      reader.position ≤ moved.position := by
  induction uses generalizing readers reader with
  | nil => exact ⟨reader, found, rfl, Nat.le_refl _⟩
  | cons use later ih =>
    obtain ⟨moved, foundMoved, bytes, position, -⟩ := on_getElem? found use
    obtain ⟨last, foundLast, bytesLast, positionLast⟩ := ih foundMoved
    exact ⟨last, foundLast, bytesLast.trans bytes, Nat.le_trans position positionLast⟩

theorem within (uses : List Use) (mem : reader ∈ readersAfter bytes uses) :
    reader.bytes <:+: bytes := by
  induction uses using List.reverseRecOn generalizing reader with
  | nil =>
    obtain rfl := List.mem_singleton.mp mem
    exact List.infix_rfl
  | append_singleton uses use ih =>
    rw [readersAfter, List.foldl_append] at mem
    obtain ⟨before, memBefore, part⟩ := exists_of_mem_on mem
    exact part.trans (ih memBefore)

end Use

/-! ### A part is read like the whole -/

theorem Cursor.ahead_eq_drop {further : Cursor} {count : Nat} (bytes : further.bytes = cursor.bytes)
    (position : further.position = cursor.position + count) :
    further.ahead = cursor.ahead.drop count := by
  rw [ahead, ahead, bytes, position, List.drop_drop]

theorem Kind.Stands.unique {number : Nat} {value other : kind.Value}
    (stands : kind.Stands number value) (standsToo : kind.Stands number other) : value = other := by
  cases kind with
  | u8 => exact UInt8.toNat_inj.mp (Eq.trans stands (Eq.symm standsToo))
  | u16 => exact UInt16.toNat_inj.mp (Eq.trans stands (Eq.symm standsToo))
  | u32 => exact UInt32.toNat_inj.mp (Eq.trans stands (Eq.symm standsToo))
  | u64 => exact UInt64.toNat_inj.mp (Eq.trans stands (Eq.symm standsToo))
  | i8 => exact Int8.toInt_inj.mp (Eq.trans stands (Eq.symm standsToo))
  | i16 => exact Int16.toInt_inj.mp (Eq.trans stands (Eq.symm standsToo))
  | i32 => exact Int32.toInt_inj.mp (Eq.trans stands (Eq.symm standsToo))
  | i64 => exact Int64.toInt_inj.mp (Eq.trans stands (Eq.symm standsToo))
  | f32 => exact Eq.trans stands (Eq.symm standsToo)
  | f64 => exact Eq.trans stands (Eq.symm standsToo)
  | bool => exact Eq.trans stands (Eq.symm standsToo)

namespace Operation

/-- The bytes ahead decide the answer. -/
theorem Answers.unique (right : operation.Answers ahead answer)
    (rightToo : operation.Answers ahead other) : answer = other := by
  cases operation with
  | peek kind | value kind | peekAt kind offset =>
    obtain ⟨value, rfl, stands⟩ := right
    obtain ⟨value, rfl, standsToo⟩ := rightToo
    rw [stands.unique standsToo]
  | values kind count =>
    obtain ⟨values, rfl, length, stand⟩ := right
    obtain ⟨others, rfl, lengthToo, standToo⟩ := rightToo
    congr 1
    apply List.ext_getElem (length.trans lengthToo.symm)
    intro index inside insideToo
    exact (stand index _ (List.getElem?_eq_getElem inside)).unique
      (standToo index _ (List.getElem?_eq_getElem insideToo))
  | has | skip | bytes | rest | slice => exact Eq.trans right (Eq.symm rightToo)

/-- Whether an operation reads a range of bytes: it does not ask how many are left. -/
def Ranged : Operation → Prop
  | .has _ | .rest => False
  | _ => True

theorem take_drop_append_left {offset width : Nat} (inside : offset + width ≤ ahead.length)
    (behind : List UInt8) :
    ((ahead ++ behind).drop offset).take width = (ahead.drop offset).take width := by
  rw [List.drop_append_of_le_length (by omega), List.take_append_of_le_length]
  rw [List.length_drop]
  omega

/-- Bytes behind the reach do not matter. -/
theorem answers_append (ranged : operation.Ranged) (inside : operation.reach ≤ ahead.length) :
    operation.Answers (ahead ++ behind) answer ↔ operation.Answers ahead answer := by
  cases operation with
  | peek kind | value kind | bytes count =>
    rw [reach] at inside
    rw [Answers, Answers, List.take_append_of_le_length inside]
  | peekAt kind offset => rw [Answers, Answers, take_drop_append_left inside]
  | values kind count =>
    refine exists_congr fun values => and_congr_right fun _ => and_congr_right fun length => ?_
    refine forall₂_congr fun index value => imp_congr_right fun found => ?_
    have below : index < count := length ▸ (List.getElem?_eq_some_iff.mp found).1
    have upTo := Nat.mul_le_mul_left kind.width (Nat.succ_le_of_lt below)
    rw [take_drop_append_left (by rw [Nat.mul_succ] at upTo; exact Nat.le_trans upTo inside)]
  | skip | slice => exact Iff.rfl
  | has | rest => exact ranged.elim

theorem cuts_append (inside : operation.reach ≤ ahead.length) :
    operation.cuts (ahead ++ behind) = operation.cuts ahead := by
  cases operation with
  | slice count =>
    rw [reach] at inside
    rw [cuts, cuts, List.take_append_of_le_length inside]
  | _ => rfl

theorem moves_append (ranged : operation.Ranged) :
    operation.moves (ahead ++ behind) = operation.moves ahead := by
  cases operation with
  | rest => exact ranged.elim
  | _ => rfl

theorem moves_le (ahead : List UInt8) (ranged : operation.Ranged) :
    operation.moves ahead ≤ operation.reach := by
  cases operation with
  | rest => exact ranged.elim
  | peek | peekAt | has => exact Nat.zero_le _
  | value | values | skip | bytes | slice => exact Nat.le_refl _

/-- What some operations tell, one after the other: the answers and the readers cut out. -/
def transcript : List Operation → Cursor → List (Except Fault Answer × Option Cursor)
  | [], _ => []
  | operation :: later, cursor =>
    ((operation.run cursor).answer, (operation.run cursor).slice) ::
      transcript later (operation.run cursor).behind

/-- An operation that succeeds on a part does the same on a reader that has more bytes behind. -/
theorem run_of_append {part whole : Cursor} (more : whole.ahead = part.ahead ++ behind)
    (ranged : operation.Ranged) (held : ¬ operation.Wraps)
    (told : (operation.run part).answer = .ok answer) :
    (operation.run whole).answer = .ok answer ∧
      (operation.run whole).slice = (operation.run part).slice ∧
        (operation.run whole).behind.ahead = (operation.run part).behind.ahead ++ behind := by
  have lawfulPart := lawful operation part held
  have lawfulWhole := lawful operation whole held
  have inside : operation.reach ≤ part.ahead.length := by
    rw [Cursor.length_ahead, ← Nat.not_lt, ← lawfulPart.fails_iff]
    rintro ⟨fault, failed⟩
    cases failed.symm.trans told
  obtain ⟨other, toldToo⟩ : ∃ other, (operation.run whole).answer = .ok other := by
    cases toldToo : (operation.run whole).answer with
    | ok other => exact ⟨other, rfl⟩
    | error fault =>
      have short := lawfulWhole.fails_iff.mp ⟨fault, toldToo⟩
      rw [← Cursor.length_ahead, more, List.length_append] at short
      omega
  -- Both answers are right in front of bytes that agree up to the reach, so they are one answer.
  obtain ⟨right, bytes, position, slice⟩ := lawfulPart.succeeds answer told
  obtain ⟨rightToo, bytesToo, positionToo, sliceToo⟩ := lawfulWhole.succeeds other toldToo
  rw [more] at rightToo positionToo sliceToo
  rw [answers_append ranged inside] at rightToo
  rw [moves_append ranged] at positionToo
  refine ⟨right.unique rightToo ▸ toldToo, ?_, ?_⟩
  · rw [slice, sliceToo, cuts_append inside]
  · have moved := Nat.le_trans (moves_le part.ahead ranged) inside
    rw [Cursor.ahead_eq_drop bytes position, Cursor.ahead_eq_drop bytesToo positionToo, more,
      List.drop_append_of_le_length moved]

theorem transcript_of_append {operations : List Operation} {part whole : Cursor}
    (more : whole.ahead = part.ahead ++ behind)
    (ranged : ∀ operation ∈ operations, operation.Ranged ∧ ¬ operation.Wraps)
    (succeed : ∀ told ∈ transcript operations part, ∃ answer, told.1 = .ok answer) :
    transcript operations whole = transcript operations part := by
  induction operations generalizing part whole with
  | nil => rfl
  | cons operation later ih =>
    rw [transcript, List.forall_mem_cons] at succeed
    rw [List.forall_mem_cons] at ranged
    obtain ⟨⟨answer, told : (operation.run part).answer = .ok answer⟩, succeedLater⟩ := succeed
    obtain ⟨toldToo, slice, moreLater⟩ := run_of_append more ranged.1.1 ranged.1.2 told
    rw [transcript, transcript, toldToo, slice, told, ih moreLater ranged.2 succeedLater]

end Operation

/-! ### All uses -/

/-- The readers of some bytes after some uses, each with whatever can be done with it then. -/
structure Reading (bytes : List UInt8) (uses : List Use) : Prop where
  inside : ∀ reader ∈ readersAfter bytes uses,
    reader.bytes <:+: bytes ∧ reader.position ≤ reader.bytes.length
  onward : ∀ (later : List Use) (place : Nat) (reader : Cursor),
    (readersAfter bytes uses)[place]? = some reader →
      ∃ moved, (readersAfter bytes (uses ++ later))[place]? = some moved ∧
        moved.bytes = reader.bytes ∧ reader.position ≤ moved.position
  others : ∀ (next : Use) (place : Nat) (reader : Cursor),
    (readersAfter bytes uses)[place]? = some reader → place ≠ next.reader →
      (readersAfter bytes (uses ++ [next]))[place]? = some reader
  /-- Every operation is held to its reach, unless a machine word cannot hold that. -/
  lawful : ∀ reader ∈ readersAfter bytes uses, ∀ operation : Operation, ¬ operation.Wraps →
    operation.Lawful reader
  wrapped : bytes.length < UInt64.size → ∀ reader ∈ readersAfter bytes uses, ∀ kind offset,
    (Operation.peekAt kind offset).Wraps →
      Operation.Wrapped kind offset (offset.toNat + kind.width - UInt64.size) reader
  /-- An operation that fails changes no reader, whatever its reach. -/
  atomic : ∀ (place : Nat) (reader : Cursor) (operation : Operation) (fault : Fault),
    (readersAfter bytes uses)[place]? = some reader → (operation.run reader).answer = .error fault →
      readersAfter bytes (uses ++ [⟨place, operation⟩]) = readersAfter bytes uses
  /-- What can be read from the next bytes alone is read alike from the reader itself. -/
  mirrored : ∀ reader ∈ readersAfter bytes uses, ∀ count ≤ reader.remaining, ∀ operations,
    (∀ operation ∈ operations, operation.Ranged ∧ ¬ operation.Wraps) →
      (∀ told ∈ Operation.transcript operations (.ofBytes (reader.ahead.take count)),
        ∃ answer, told.1 = .ok answer) →
      Operation.transcript operations reader =
        Operation.transcript operations (.ofBytes (reader.ahead.take count))

theorem readersAfter_append (bytes : List UInt8) (uses later : List Use) :
    readersAfter bytes (uses ++ later) = later.foldl Use.on (readersAfter bytes uses) :=
  List.foldl_append

theorem reading_of_uses (bytes : List UInt8) (uses : List Use) : Reading bytes uses where
  inside reader mem := ⟨Use.within uses mem, reader.position_le⟩
  onward later place reader found := by
    rw [readersAfter_append]
    exact Use.onward found later
  others next place reader found other := by
    obtain ⟨moved, foundMoved, -, -, same⟩ := Use.on_getElem? found next
    rw [readersAfter_append, ← same other]
    exact foundMoved
  lawful reader _ operation held := operation.lawful reader held
  wrapped addressed reader mem kind offset wraps :=
    Operation.wrapped_of_wraps wraps
      (Nat.lt_of_le_of_lt (Use.within uses mem).length_le addressed)
  atomic place reader operation fault found failed := by
    obtain ⟨inside, here⟩ := List.getElem?_eq_some_iff.mp found
    obtain ⟨behind, slice⟩ := Operation.run_of_error failed
    rw [readersAfter_append, List.foldl_cons, List.foldl_nil, Use.on_eq found, behind, slice,
      Option.toList_none, List.append_nil, ← here, List.set_getElem_self]
  mirrored reader _ count _ operations ranged succeed :=
    Operation.transcript_of_append (List.take_append_drop count reader.ahead).symm ranged succeed

/-- A look-ahead with a reach of `2 ^ 64` finds the byte in front of the reader. -/
theorem not_lawful_inFront : ¬ ∀ bytes uses, ∀ reader ∈ readersAfter bytes uses,
    ∀ operation : Operation, operation.Lawful reader := by
  intro lawful
  have skipped : readersAfter [7, 9] [⟨0, .skip 1⟩] =
      [(Cursor.ofBytes [7, 9]).advance 1 (by decide)] := rfl
  have mem := List.mem_of_mem_head? (congrArg List.head? skipped)
  obtain ⟨fault, failed⟩ :=
    (lawful _ _ _ mem (.peekAt .u8 0xFFFFFFFFFFFFFFFF)).fails_iff.mpr (by decide)
  have found : ((Operation.peekAt .u8 0xFFFFFFFFFFFFFFFF).run
      ((Cursor.ofBytes [7, 9]).advance 1 (by decide))).answer = .ok (.value .u8 (7 : UInt8)) := rfl
  cases found.symm.trans failed

end ArmLink.Wire
