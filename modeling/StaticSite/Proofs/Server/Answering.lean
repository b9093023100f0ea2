import StaticSite.Proofs.Server.Containing
import StaticSite.Proofs.Server.Messages

/-!
# Which requests are answered

Whatever a client sends in lines that can be read, the server closes the connection, and it writes
one response or nothing.  Nothing is written for a target with a host that is refused, and for one
whose path is longer than the file system takes.
-/

namespace StaticSite

namespace FileTree

variable {tree : FileTree} {location : Location} {path : Path} {parts : List Text}

/-- A name that no file can have is looked up in a directory. -/
def MeetsLongName (tree : FileTree) (location : Location) (parts : List Text) : Prop :=
  ∃ before name after directory, parts = before ++ name :: after ∧
    tree.follow location before = .ok directory ∧ tree.node? directory = some .directory ∧
    name ≠ ['.'] ∧ name ≠ ['.', '.'] ∧ longestName < (Utf8.encode name).length

/-- A path that is too long to be looked up, as a whole or by one of its names. -/
def TooLong (tree : FileTree) (path : Path) : Prop :=
  hasNull path = false ∧
    (longestPath < (Utf8.encode path.text).length ∨
      tree.MeetsLongName (if path.anchor = .here then tree.here else []) path.parts)

theorem follow_eq_nameTooLong_iff :
    tree.follow location parts = .error .nameTooLong ↔ tree.MeetsLongName location parts := by
  constructor
  · intro refused
    induction parts generalizing location with
    | nil => cases refused
    | cons part parts ih =>
        simp only [follow] at refused
        split at refused
        · cases refused
        · cases refused
        · next directory =>
            split at refused
            · next here =>
                obtain ⟨before, name, after, target, rfl, led, long⟩ := ih refused
                refine ⟨part :: before, name, after, target, rfl, ?_, long⟩
                simp only [follow, directory, if_pos here, led]
            · next notHere =>
                split at refused
                · next above =>
                    obtain ⟨before, name, after, target, rfl, led, long⟩ := ih refused
                    refine ⟨part :: before, name, after, target, rfl, ?_, long⟩
                    simp only [follow, directory, if_neg notHere, if_pos above, led]
                · next notAbove =>
                    split at refused
                    · next long =>
                        exact ⟨[], part, parts, location, rfl, rfl, directory, notHere, notAbove,
                          long⟩
                    · next short =>
                        obtain ⟨before, name, after, target, rfl, led, long⟩ := ih refused
                        refine ⟨part :: before, name, after, target, rfl, ?_, long⟩
                        simp only [follow, directory, if_neg notHere, if_neg notAbove,
                          if_neg short, led]
  · rintro ⟨before, name, after, directory, rfl, led, opened, notHere, notAbove, long⟩
    rw [follow_append, led]
    simp only [Except.bind, follow, opened, if_neg notHere, if_neg notAbove, if_pos long]

theorem locate_eq_nameTooLong_iff :
    tree.locate path = .error .nameTooLong ↔
      longestPath < (Utf8.encode path.text).length ∨
        tree.MeetsLongName (if path.anchor = .here then tree.here else []) path.parts := by
  rw [← follow_eq_nameTooLong_iff, locate]
  split
  · next long => simp [long]
  · next short => simp [short]

/-- Nothing but the length of a path keeps the file system from saying what is there. -/
theorem probe_eq_error_iff :
    (∃ fault, tree.probe path = .error fault) ↔ tree.TooLong path := by
  rw [TooLong, ← locate_eq_nameTooLong_iff]
  unfold probe
  cases hasNull path with
  | true => simp
  | false =>
      cases located : tree.locate path with
      | ok location => simp
      | error refusal => cases refusal <;> simp

end FileTree

namespace Server

open FileTree

variable {files : FileTree} {output path : Path} {received octets : Bytes}
  {method target name mediaType : Text}

section Receiving

/-- Every line is short enough to be read, the last one without an end included. -/
def Readable (received : Bytes) : Prop :=
  ∀ line, line <:+: received → 10 ∉ line → line.length ≤ longestLine

/-- A line ends at the first line feed, or it is all that is left. -/
theorem splitLine_cases (octets : Bytes) :
    ∃ line, 10 ∉ line ∧ octets = (splitLine octets).1 ++ (splitLine octets).2 ∧
      ((splitLine octets).1 = line ++ [10] ∨ (splitLine octets).1 = line) := by
  induction octets with
  | nil => exact ⟨[], List.not_mem_nil, rfl, Or.inr rfl⟩
  | cons octet octets ih =>
      rw [splitLine]
      by_cases ends : octet = 10
      · rw [if_pos ends]
        exact ⟨[], List.not_mem_nil, rfl, Or.inl (by rw [ends]; rfl)⟩
      · obtain ⟨line, plain, whole, lines⟩ := ih
        rw [if_neg ends]
        refine ⟨octet :: line, ?_, congrArg (octet :: ·) whole, ?_⟩
        · rw [List.mem_cons, not_or]
          exact ⟨Ne.symm ends, plain⟩
        · rcases lines with ended | open_
          · exact Or.inl (congrArg (octet :: ·) ended)
          · exact Or.inr (congrArg (octet :: ·) open_)

theorem Readable.readLine (readable : Readable octets) :
    readLine octets = .ok (splitLine octets) ∧ Readable (splitLine octets).2 := by
  obtain ⟨line, plain, whole, lines⟩ := splitLine_cases octets
  constructor
  · have short : line.length ≤ longestLine := by
      refine readable line ?_ plain
      rw [whole]
      rcases lines with ended | open_
      · rw [ended, List.append_assoc]
        exact ((List.prefix_append _ _).isInfix)
      · rw [open_]
        exact (List.prefix_append _ _).isInfix
    unfold Server.readLine
    rcases lines with ended | open_
    · simp only [ended, List.getLast?_concat, if_true, List.length_append, List.length_singleton,
        Nat.add_sub_cancel, if_neg (not_lt.2 short)]
      rw [← ended]
    · have noEnd : line.getLast? ≠ some 10 := fun last => plain (List.mem_of_getLast? last)
      simp only [open_, if_neg noEnd, if_neg (not_lt.2 short)]
      rw [← open_]
  · intro inner inside
    refine readable inner ?_
    rw [whole]
    exact inside.trans (List.suffix_append _ _).isInfix

theorem Readable.skipHeader (readable : Readable octets) (fuel : Nat) :
    skipHeader fuel octets = .ok () := by
  induction fuel generalizing octets with
  | zero => rfl
  | succ fuel ih =>
      obtain ⟨read, later⟩ := readable.readLine
      rw [Server.skipHeader, read]
      simp only [bind, Except.bind]
      split
      · rfl
      · exact ih later

/-- The words of the first line are read, whatever follows it. -/
theorem Readable.requestWords (readable : Readable received) :
    requestWords received = .ok (Text.words (latin (splitLine received).1)) := by
  obtain ⟨read, later⟩ := readable.readLine
  unfold Server.requestWords
  rw [read]
  simp only [bind, Except.bind, later.skipHeader]
  rfl

end Receiving

section Targets

/-- A target with a host that is refused. -/
def RefusesHost (target : Text) : Prop :=
  ∃ rest, dropScheme (cleanTarget target) = '/' :: '/' :: rest ∧
    let host := rest.takeWhile fun character =>
      character ≠ '/' && character ≠ '?' && character ≠ '#'
    isHost host = false ∨ hasHiddenDelimiter host = true

theorem requestedPath_eq_error_iff :
    (∃ fault, requestedPath target = .error fault) ↔ RefusesHost target := by
  have mapped : (∃ fault, requestedPath target = .error fault) ↔
      ∃ fault, escapedPath target = .error fault := by
    unfold requestedPath
    cases escapedPath target <;> simp [Except.map]
  rw [mapped, RefusesHost]
  unfold escapedPath
  simp only
  split
  · next rest same =>
      simp only [same, List.cons.injEq, true_and, exists_eq_left']
      split
      · next noHost => simpa using Or.inl noHost
      · split
        · next hidden => simpa using Or.inr hidden
        · next host plain => simpa using ⟨by simpa using host, by simpa using plain⟩
  · next noHost =>
      refine iff_of_false (by simp) ?_
      rintro ⟨rest, same, -⟩
      exact noHost rest same

/-- The path below the output directory that is asked for. -/
def askedPath (output : Path) (path : Text) : Path :=
  output.append (Path.parse
    ((if path = [] ∨ path = ['/'] then '/' :: indexName else path).dropWhile (· = '/')))

/-- The targets that are not answered: the host is refused, or the path is too long, that of what is
asked for or that of the page of a directory that is asked for. -/
inductive Unanswerable (files : FileTree) (output : Path) (target : Text) : Prop
  | host (refused : RefusesHost target)
  | path {path : Text} (asked : requestedPath target = .ok path)
      (inside : ['.', '.'] ∉ Text.splitOn (· = '/') path)
      (long : files.TooLong (askedPath output path))
  | index {path : Text} (asked : requestedPath target = .ok path)
      (inside : ['.', '.'] ∉ Text.splitOn (· = '/') path)
      (directory : files.isDirectory (askedPath output path) = .ok true)
      (long : files.TooLong ((askedPath output path).child indexName))

theorem resolveRequest_eq (files : FileTree) (output : Path) (target : Text) :
    resolveRequest files output target = (requestedPath target).bind fun path =>
      if ['.', '.'] ∈ Text.splitOn (· = '/') path then .ok none
      else (files.isDirectory (askedPath output path)).map fun isDirectory =>
        some (if isDirectory then (askedPath output path).child indexName
          else askedPath output path) := by
  unfold resolveRequest askedPath
  cases requestedPath target with
  | error fault => rfl
  | ok path =>
      simp only [bind, Except.bind, List.contains_eq_mem, decide_eq_true_eq]
      split
      · rfl
      · rcases files.isDirectory _ with fault | _ | _ <;> rfl

theorem map_probe_eq_error_iff {α : Type} {look : Option Node → α} :
    (∃ fault, (files.probe path).map look = .error fault) ↔ files.TooLong path := by
  rw [← probe_eq_error_iff]
  cases files.probe path <;> simp [Except.map]

theorem deliver_eq_error_iff :
    (∃ fault, deliver files path = .error fault) ↔ files.TooLong path := by
  rw [← map_probe_eq_error_iff, ← isFile]
  cases asked : files.isFile path with
  | error fault =>
      have failed : deliver files path = .error fault := by
        unfold deliver
        rw [asked]
        rfl
      exact iff_of_true ⟨fault, failed⟩ ⟨fault, rfl⟩
  | ok answer =>
      refine iff_of_false ?_ (by simp)
      rintro ⟨fault, failed⟩
      cases answer with
      | false =>
          rw [deliver_of_not_file asked] at failed
          cases failed
      | true =>
          obtain ⟨response, delivered, -⟩ := deliver_of_file asked
          rw [delivered] at failed
          cases failed

/-- A page or a file that is asked for is not answered for the reasons that are told, and for no
other. -/
theorem respond_eq_error_iff (asks : method = "GET" ∨ method = "HEAD") :
    (∃ fault, respond files output method target = .error fault) ↔
      Unanswerable files output target := by
  rw [respond_eq_bind asks, resolveRequest_eq]
  cases requested : requestedPath target with
  | error fault =>
      exact iff_of_true ⟨fault, rfl⟩ (.host (requestedPath_eq_error_iff.1 ⟨fault, requested⟩))
  | ok path =>
      have noHost : ¬ RefusesHost target := by
        rw [← requestedPath_eq_error_iff, requested]
        simp
      have only : Unanswerable files output target ↔ ['.', '.'] ∉ Text.splitOn (· = '/') path ∧
          (files.TooLong (askedPath output path) ∨
            files.isDirectory (askedPath output path) = .ok true ∧
              files.TooLong ((askedPath output path).child indexName)) := by
        constructor
        · rintro (refused | ⟨asked, inside, long⟩ | ⟨asked, inside, directory, long⟩)
          · exact absurd refused noHost
          · cases requested.symm.trans asked
            exact ⟨inside, Or.inl long⟩
          · cases requested.symm.trans asked
            exact ⟨inside, Or.inr ⟨directory, long⟩⟩
        · rintro ⟨inside, long | ⟨directory, long⟩⟩
          · exact .path requested inside long
          · exact .index requested inside directory long
      rw [only, Except.bind]
      by_cases up : ['.', '.'] ∈ Text.splitOn (· = '/') path
      · simp [up, Except.bind]
      rw [if_neg up, ← map_probe_eq_error_iff, ← isDirectory]
      cases directory : files.isDirectory (askedPath output path) with
      | error fault => simp [up, Except.map, Except.bind]
      | ok answer =>
          have short : ¬ files.TooLong (askedPath output path) := by
            rw [← map_probe_eq_error_iff, ← isDirectory, directory]
            simp
          cases answer with
          | false => simp [Except.map, Except.bind, deliver_eq_error_iff, short]
          | true => simp [Except.map, Except.bind, deliver_eq_error_iff, up]

end Targets

section Types

theorem visible_lookupText {key : Text} (found : lookupText key mediaTypes = some mediaType) :
    mediaType.all isVisible = true := by
  have table : ∀ entry ∈ mediaTypes, entry.2.toList.all isVisible = true := by decide +kernel
  unfold lookupText at found
  obtain ⟨entry, member, rfl⟩ := Option.map_eq_some_iff.1 found
  exact table entry (List.mem_of_find?_eq_some member)

/-- The type that a name without a slash states is no other than that of plain text. -/
theorem eq_of_statedType? (noSlash : '/' ∉ name) (stated : statedType? name = some mediaType) :
    mediaType = "text/plain".toList := by
  unfold statedType? at stated
  obtain ⟨⟨before, rest⟩, cut, rfl⟩ := Option.map_eq_some_iff.1 stated
  have inside : '/' ∉ before.takeWhile (· ≠ ';') := by
    intro member
    have whole := Text.eq_of_cut? cut
    refine noSlash ?_
    rw [whole]
    exact List.mem_append_left _ (List.mem_append_left _ (List.takeWhile_subset _ member))
  exact if_pos (Or.inr inside)

theorem visible_typeOfName? (noSlash : '/' ∉ name) (known : typeOfName? name = some mediaType) :
    mediaType.all isVisible = true := by
  have bare : ∀ {name : Text}, typeOfName?.typeOfBare? name = some mediaType →
      mediaType.all isVisible = true := by
    intro name known
    unfold typeOfName?.typeOfBare? at known
    split at known
    · exact visible_lookupText known
    · cases known
  unfold typeOfName? at known
  split at known
  · next scheme rest cut =>
      split at known
      · have noSlash : '/' ∉ rest := by
          intro member
          have whole := Text.eq_of_cut? cut
          refine noSlash ?_
          rw [whole]
          exact List.mem_append_right _ member
        rw [eq_of_statedType? noSlash known]
        rfl
      · exact bare known
  · exact bare known

theorem visible_contentType (noSlash : '/' ∉ path.name)
    (typed : contentType files path = .ok mediaType) : mediaType.all isVisible = true := by
  have html : htmlType.all isVisible = true := by decide
  have binary : binaryType.all isVisible = true := by decide
  unfold contentType at typed
  split at typed
  · split at typed
    · obtain rfl := Except.ok.inj typed
      split
      · exact html
      · exact binary
    · obtain rfl := Except.ok.inj typed
      exact binary
    · cases typed
  · split at typed
    · obtain rfl := Except.ok.inj typed
      exact binary
    · next known =>
        obtain rfl := Except.ok.inj typed
        have visible := visible_typeOfName? noSlash known
        split
        · rw [List.all_append, visible]
          decide
        · exact visible

theorem visible_notice (status : Status) :
    (Response.notice status).contentType.all isVisible = true :=
  rfl

theorem visible_deliver {response : Response} (noSlash : '/' ∉ path.name)
    (delivered : deliver files path = .ok response) :
    response.contentType.all isVisible = true := by
  unfold deliver at delivered
  obtain ⟨answer, asked, delivered⟩ := bind_eq_ok_iff.1 delivered
  split at delivered
  · obtain rfl := Except.ok.inj delivered
    exact visible_notice .notFound
  · split at delivered
    · obtain rfl := Except.ok.inj delivered
      exact visible_notice .internalError
    · cases delivered
    · obtain ⟨mediaType, typed, delivered⟩ := bind_eq_ok_iff.1 delivered
      obtain rfl := Except.ok.inj delivered
      exact visible_contentType noSlash typed

/-- The type of an answer can be written into a line. -/
theorem visible_respond {response : Response} (noSlash : '/' ∉ output.name)
    (answered : respond files output method target = .ok response) :
    response.contentType.all isVisible = true := by
  by_cases asks : method = "GET" ∨ method = "HEAD"
  swap
  · rw [respond, if_pos asks] at answered
    obtain rfl := Except.ok.inj answered
    exact visible_notice .methodNotAllowed
  rw [respond_eq_bind asks] at answered
  rcases resolveRequest_cases output target with ⟨fault, faults⟩ | forbidden | ⟨parts, inner, asked⟩
  · rw [faults] at answered
    cases answered
  · rw [forbidden] at answered
    obtain rfl := Except.ok.inj answered
    exact visible_notice .forbidden
  · rw [asked] at answered
    cases directory : files.isDirectory (output.extend parts) with
    | error fault =>
        rw [directory] at answered
        cases answered
    | ok isDirectory =>
        rw [directory] at answered
        refine visible_deliver ?_ answered
        have down : Inner (if isDirectory = true then parts ++ [indexName] else parts) := by
          split
          · exact inner.index
          · exact inner
        rcases List.eq_nil_or_concat (if isDirectory = true then parts ++ [indexName] else parts)
          with none | ⟨before, last, some⟩
        · rw [none, Path.extend_nil]
          exact noSlash
        · rw [List.concat_eq_append] at some
          rw [some] at down ⊢
          rw [Path.name_extend]
          exact (down last (by simp)).2.2.2

end Types

/-- The words of a request line that is not answered. -/
def Refused (files : FileTree) (output : Path) : List Text → Prop
  | method :: target :: _ =>
    (method = "GET" ∨ method = "HEAD") ∧ Unanswerable files output target
  | _ => False

/-- Whether the words of a request line ask for no more than the head of a response. -/
def asksHead : List Text → Bool
  | method :: _ :: _ => method = "HEAD"
  | _ => false

/-- A request is refused, or it is answered with what can be written into a response. -/
theorem answer_cases {words : List Text} (noSlash : '/' ∉ output.name)
    (read : requestWords received = .ok words) :
    (Refused files output words ∧ ∃ fault, answer files output received = .error fault) ∨
      ¬ Refused files output words ∧ ∃ method target response,
        answer files output received = .ok (method, target, response) ∧
          asksHead words = decide (method = "HEAD") ∧
            response.contentType.all isVisible = true := by
  unfold answer
  rw [read]
  match words with
  | [] => exact Or.inr ⟨id, [], [], _, rfl, rfl, visible_notice .badRequest⟩
  | [_] => exact Or.inr ⟨id, [], [], _, rfl, rfl, visible_notice .badRequest⟩
  | method :: target :: _ =>
      simp only [bind, Except.bind]
      cases responded : respond files output method target with
      | error fault =>
          have asks : method = "GET" ∨ method = "HEAD" := by
            by_contra other
            rw [respond, if_pos other] at responded
            cases responded
          exact Or.inl ⟨⟨asks, (respond_eq_error_iff asks).1 ⟨fault, responded⟩⟩, fault, rfl⟩
      | ok response =>
          refine Or.inr ⟨?_, method, target, response, rfl, rfl,
            visible_respond noSlash responded⟩
          rintro ⟨asks, unanswerable⟩
          obtain ⟨fault, failed⟩ := (respond_eq_error_iff asks).2 unanswerable
          rw [responded] at failed
          cases failed

/-- The server closes every connection.  To what it reads in lines that can be read it writes one
response, of which a client finds the end, unless the request is one of those that are told; then it
writes nothing, and a fault is raised. -/
theorem exchange_answers_unless_refused (files : FileTree) (root : Path)
    (readable : Readable received) :
    let words := Text.words (latin (splitLine received).1)
    let output := root.child Context.outputName
    let done := exchange files output received false
    done.closed = true ∧
      (done.fault = none ↔ ¬ Refused files output words) ∧
      (done.fault = none → ∃ message, ∀ rest,
        readMessage? (asksHead words) (done.written ++ rest) = some (message, rest)) ∧
      (done.fault ≠ none → done.written = []) := by
  intro words output done
  have noSlash : '/' ∉ output.name := by
    rw [Path.name_child]
    decide
  rcases @answer_cases files output received words noSlash readable.requestWords with
    ⟨refused, fault, failed⟩ | ⟨answered, method, target, response, known, head, visible⟩
  · have nothing : done = { fault := some fault } := by
      simp only [done, exchange, failed]
    rw [nothing]
    exact ⟨rfl, iff_of_false nofun (not_not.2 refused), nofun, fun _ => rfl⟩
  · have written : done.written = response.octets method := by
      simp only [done, exchange, known]
    have noFault : done.fault = none := by
      simp only [done, exchange, known]
    have closed : done.closed = true := by
      simp only [done, exchange, known]
    refine ⟨closed, iff_of_true noFault answered, fun _ => ?_, fun fault => absurd noFault fault⟩
    refine ⟨response.message (asksHead words), fun rest => ?_⟩
    rw [written, head]
    exact readMessage?_octets visible method rest

end Server

namespace Server.Example

open FileTree

def pageRequest : Bytes := Utf8.encode "HEAD / HTTP/1.1\r\n\r\n"

/-- A request for a host with a bracket that is not closed. -/
def bracketRequest : Bytes := Utf8.encode "GET //[ HTTP/1.1\r\n\r\n"

/-- A request for a file whose name has 256 octets. -/
def longRequest : Bytes :=
  Utf8.encode ("GET /".toList ++ List.replicate 256 'a' ++ " HTTP/1.1\r\n\r\n".toList)

theorem readable_of_short {received : Bytes} (short : received.length ≤ longestLine) :
    Readable received :=
  fun _ inside _ => inside.length_le.trans short

theorem readable_requests :
    Readable pageRequest ∧ Readable bracketRequest ∧ Readable longRequest := by
  refine ⟨readable_of_short ?_, readable_of_short ?_, readable_of_short ?_⟩
  · decide
  · decide
  · decide +kernel

/-- The head of a page is answered with one response, and a bracket with nothing. -/
theorem exchange_answers_page :
    Readable pageRequest ∧ Readable bracketRequest ∧
      (exchange guarded ⟨.here, ["public".toList]⟩ pageRequest false).fault = none ∧
      (∃ message, ∀ rest, readMessage? true
        ((exchange guarded ⟨.here, ["public".toList]⟩ pageRequest false).written ++ rest) =
          some (message, rest)) ∧
      (exchange guarded ⟨.here, ["public".toList]⟩ bracketRequest false).written = [] := by
  obtain ⟨page, bracket, -⟩ := readable_requests
  obtain ⟨-, -, answered, -⟩ := exchange_answers_unless_refused guarded ⟨.here, []⟩ page
  obtain ⟨-, -, -, silent⟩ := exchange_answers_unless_refused guarded ⟨.here, []⟩ bracket
  have noFault : (exchange guarded ⟨.here, ["public".toList]⟩ pageRequest false).fault = none := by
    decide +kernel
  have fault : (exchange guarded ⟨.here, ["public".toList]⟩ bracketRequest false).fault ≠ none := by
    decide +kernel
  exact ⟨page, bracket, noFault, answered noFault, silent fault⟩

/-- Neither the bracket nor the long name is answered, so not every request is. -/
theorem not_answers_long_name :
    Readable longRequest ∧
      (exchange guarded ⟨.here, ["public".toList]⟩ longRequest false).written = [] ∧
      (exchange guarded ⟨.here, ["public".toList]⟩ longRequest false).fault ≠ none ∧
      Readable bracketRequest ∧
      (exchange guarded ⟨.here, ["public".toList]⟩ bracketRequest false).written = [] ∧
      (exchange guarded ⟨.here, ["public".toList]⟩ bracketRequest false).fault ≠ none ∧
      ¬ ∀ (files : FileTree) (root : Path) (received : Bytes), Readable received →
        (exchange files (root.child Context.outputName) received false).fault = none := by
  obtain ⟨-, bracket, long⟩ := readable_requests
  have fault : (exchange guarded ⟨.here, ["public".toList]⟩ longRequest false).fault ≠ none := by
    decide +kernel
  refine ⟨long, by decide +kernel, fault, bracket, by decide +kernel, by decide +kernel, fun law => ?_⟩
  exact fault (law guarded ⟨.here, []⟩ longRequest long)

end Server.Example

end StaticSite
