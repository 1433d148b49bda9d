import Hostlink.WinRm.Reply
import Mathlib.Data.List.Forall2

/-!
# What a reply reports

A reply to a poll is text with stream elements in it. `nextElement?` finds the first element of a
stream, `streamContents` all of them, and neither reads what it finds; `HoldsOctets` says what a
content stands for. That the reader takes the elements one by one and puts their octets together in
order is `decodeStream_eq_ok_iff`. `Report` is all that a reply says, and `receiveChunk_eq_ok_iff`
that reading a reply finds exactly that.

An element without content stands for no octets, since a base64 text without symbols does, so it
needs no rule of its own here although the reader passes it by.
-/

namespace Hostlink.WinRm

open Text

/-! ## The elements of a stream -/

/-- The first element of a stream: its content, unless it closes itself, and what comes after it.
An element without an end is none. -/
def nextElement? (name : String) (text : List Char) : Option (Option (List Char) × List Char) := do
  let (_, after) ← cut? (streamOpening name) text
  let (tag, rest) ← cut? ['>'] (streamOpening name ++ after)
  if tag.getLast? = some '/' then return (none, rest)
  else
    let (content, more) ← cut? streamClosing rest
    return (some content, more)

/-- What comes after an element is shorter than the whole. -/
theorem length_lt_of_nextElement? {name : String} {text rest : List Char}
    {content : Option (List Char)} (h : nextElement? name text = some (content, rest)) :
    rest.length < text.length := by
  simp only [nextElement?, Option.bind_eq_bind, Option.bind_eq_some_iff, Prod.exists] at h
  obtain ⟨_, after, hOpen, tag, inside, hTag, h⟩ := h
  have whole := congrArg List.length (eq_append_of_cut? hOpen)
  have shorter := length_lt_of_cut? (by simp) hTag
  simp only [List.length_append] at whole shorter
  by_cases closed : tag.getLast? = some '/'
  · rw [if_pos closed] at h
    cases h
    omega
  · rw [if_neg closed] at h
    obtain ⟨⟨_, more⟩, hClose, h⟩ := Option.bind_eq_some_iff.mp h
    cases h
    have : more.length < inside.length := length_lt_of_cut? (by decide) hClose
    exact Nat.lt_trans this (by omega)

/-- The contents of the elements of a stream, in order. -/
def streamContents (name : String) (text : List Char) : List (List Char) :=
  match _h : nextElement? name text with
  | none => []
  | some (content, rest) => content.toList ++ streamContents name rest
termination_by text.length
decreasing_by exact length_lt_of_nextElement? _h

theorem streamContents_of_none {name : String} {text : List Char}
    (h : nextElement? name text = none) : streamContents name text = [] := by
  rw [streamContents]
  split
  next => rfl
  next other => cases h.symm.trans other

theorem streamContents_of_some {name : String} {text rest : List Char}
    {content : Option (List Char)} (h : nextElement? name text = some (content, rest)) :
    streamContents name text = content.toList ++ streamContents name rest := by
  rw [streamContents]
  split
  next other => cases h.symm.trans other
  next other =>
    cases h.symm.trans other
    rfl

/-! ## The octets of a stream -/

/-- **What a content stands for**: the octets of its base64 text, blanks around it left out. -/
def HoldsOctets (content : List Char) (bytes : Bytes) : Prop :=
  Base64.decode (Utf8.encode (String.ofList (trimChars content))) = .ok bytes

theorem holdsOctets_of_isEmpty {content : List Char} (h : (trimChars content).isEmpty = true)
    (bytes : Bytes) : HoldsOctets content bytes ↔ bytes = [] := by
  unfold HoldsOctets
  rw [List.isEmpty_iff.mp h]
  show Except.ok [] = Except.ok bytes ↔ _
  rw [Except.ok.injEq, eq_comm]

/-- **A stream carries parts**: the octets that the contents of its elements stand for, in order. -/
def Carries (name : String) (text : List Char) (parts : List Bytes) : Prop :=
  List.Forall₂ HoldsOctets (streamContents name text) parts

theorem carries_of_none {name : String} {text : List Char} (h : nextElement? name text = none)
    (parts : List Bytes) : Carries name text parts ↔ parts = [] := by
  rw [Carries, streamContents_of_none h, List.forall₂_nil_left_iff]

/-- An element that closes itself carries nothing. -/
theorem carries_of_closed {name : String} {text rest : List Char}
    (h : nextElement? name text = some (none, rest)) (parts : List Bytes) :
    Carries name text parts ↔ Carries name rest parts := by
  rw [Carries, streamContents_of_some h]
  rfl

/-- Any other element carries what its content stands for. -/
theorem carries_of_content {name : String} {text content rest : List Char}
    (h : nextElement? name text = some (some content, rest)) (parts : List Bytes) :
    Carries name text parts ↔
      ∃ part more, HoldsOctets content part ∧ Carries name rest more ∧ parts = part :: more := by
  rw [Carries, streamContents_of_some h]
  exact List.forall₂_cons_left_iff

/-- **Elements are read one by one**, on top of what was read before. The cases are those of the
reader. -/
theorem streamParts_eq_ok_iff (name : String) (acc : List Bytes) (text : List Char)
    (bytes : Bytes) :
    (∃ read, streamParts name acc text = .ok read ∧ read.reverse.flatten = bytes) ↔
      ∃ parts, Carries name text parts ∧ acc.reverse.flatten ++ parts.flatten = bytes := by
  fun_induction streamParts name acc text with
  | case1 acc text hOpen =>
    have none : nextElement? name text = none := by simp [nextElement?, hOpen]
    simp [carries_of_none none]
  | case2 acc text _ after hOpen hTag =>
    have none : nextElement? name text = none := by simp [nextElement?, hOpen, hTag]
    simp [carries_of_none none]
  | case3 acc text _ after hOpen tag rest hTag closed ih =>
    have element : nextElement? name text = some (none, rest) := by
      simp [nextElement?, hOpen, hTag, closed]
    simp only [carries_of_closed element, ih]
  | case4 acc text _ after hOpen tag rest hTag closed hClose =>
    have none : nextElement? name text = none := by
      simp [nextElement?, hOpen, hTag, closed, hClose]
    simp [carries_of_none none]
  | case5 acc text _ after hOpen tag rest hTag closed content more hClose _ empty ih =>
    have element : nextElement? name text = some (some content, more) := by
      simp [nextElement?, hOpen, hTag, closed, hClose]
    rw [ih]
    simp [carries_of_content element, holdsOctets_of_isEmpty empty]
  | case6 acc text _ after hOpen tag rest hTag closed content more hClose _ _ part held ih =>
    have element : nextElement? name text = some (some content, more) := by
      simp [nextElement?, hOpen, hTag, closed, hClose]
    have held (part' : Bytes) : HoldsOctets content part' ↔ part' = part := by
      unfold HoldsOctets
      rw [held, Except.ok.injEq, eq_comm]
    rw [ih]
    simp [carries_of_content element, held]
  | case7 acc text _ after hOpen tag rest hTag closed content more hClose _ _ fault broken =>
    have element : nextElement? name text = some (some content, more) := by
      simp [nextElement?, hOpen, hTag, closed, hClose]
    have held (part : Bytes) : ¬ HoldsOctets content part := by
      unfold HoldsOctets
      rw [broken]
      rintro ⟨⟩
    simp [carries_of_content element, held]

/-- **The octets of a stream** are those of its elements, put together in order; a reply from which
they can be read is one whose every element stands for octets. -/
theorem decodeStream_eq_ok_iff {name reply : String} {bytes : Bytes} :
    decodeStream name reply = .ok bytes ↔
      ∃ parts, Carries name reply.toList parts ∧ parts.flatten = bytes := by
  have read := streamParts_eq_ok_iff name [] reply.toList bytes
  simp only [List.reverse_nil, List.flatten_nil, List.nil_append] at read
  rw [← read, decodeStream]
  cases streamParts name [] reply.toList with
  | error fault => simp
  | ok parts => simp

/-! ## Reports -/

/-- **The code that a reply states**, if it states one. -/
inductive StatesCode (text : List Char) : Option Int32 → Prop
  | absent (h : elementText? "rsp:ExitCode" text = none) : StatesCode text none
  | stated {content : List Char} {code : Int32}
      (h : elementText? "rsp:ExitCode" text = some content)
      (read : Integer.readInt32 (trimChars content) = .ok code) : StatesCode text (some code)

/-- **What a reply reports**: the octets that the elements of either stream carry, the code of the
command, and whether the command has finished. -/
structure Reports (reply : String) (stdout stderr : List Bytes) (code : Option Int32)
    (done : Bool) : Prop where
  stdout : Carries "stdout" reply.toList stdout
  stderr : Carries "stderr" reply.toList stderr
  code : StatesCode reply.toList code
  done : occurs doneMark reply.toList = done

/-- **Reading a reply finds what it reports**, and fails on a reply that reports nothing. -/
theorem receiveChunk_eq_ok_iff {reply : String} {chunk : Chunk} :
    receiveChunk reply = .ok chunk ↔
      ∃ stdout stderr, Reports reply stdout stderr chunk.exitCode chunk.done ∧
        stdout.flatten = chunk.stdout ∧ stderr.flatten = chunk.stderr := by
  constructor
  · intro h
    unfold receiveChunk at h
    cases out : decodeStream "stdout" reply with
    | error fault => rw [out] at h; cases h
    | ok stdout =>
      cases err : decodeStream "stderr" reply with
      | error fault => rw [out, err] at h; cases h
      | ok stderr =>
        simp only [out, err] at h
        obtain ⟨outs, hout, rfl⟩ := decodeStream_eq_ok_iff.mp out
        obtain ⟨errs, herr, rfl⟩ := decodeStream_eq_ok_iff.mp err
        cases stated : elementText? "rsp:ExitCode" reply.toList with
        | none =>
          simp only [stated] at h
          cases h
          exact ⟨outs, errs, ⟨hout, herr, .absent stated, rfl⟩, rfl, rfl⟩
        | some content =>
          simp only [stated] at h
          cases read : Integer.readInt32 (trimChars content) with
          | error fault => rw [read] at h; cases h
          | ok code =>
            rw [read] at h
            cases h
            exact ⟨outs, errs, ⟨hout, herr, .stated stated read, rfl⟩, rfl, rfl⟩
  · rintro ⟨stdout, stderr, ⟨hout, herr, hcode, hdone⟩, out, err⟩
    have out := decodeStream_eq_ok_iff.mpr ⟨stdout, hout, out⟩
    have err := decodeStream_eq_ok_iff.mpr ⟨stderr, herr, err⟩
    obtain ⟨bytesOut, bytesErr, code, done⟩ := chunk
    unfold receiveChunk
    rw [out, err]
    cases hcode with
    | absent none =>
      simp only [none, hdone]
      rfl
    | stated some read =>
      simp only [some, read, hdone]
      rfl

end Hostlink.WinRm
