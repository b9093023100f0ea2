import StaticSite.Proofs.Server.Answering

/-!
# Where the head of a response ends

The octets of a response fall apart at their first empty line, whatever the body is: in front of it
are the status and the fields, one of which says how long the body is, and behind it is the body and
nothing else.  To a client that asks for the head just the body is left out.
-/

namespace StaticSite

namespace Server

variable {files : FileTree} {output : Path} {received octets rest : Bytes} {line method target : Text}
  {words : List Text} {fields : List (Text × Text)} {response : Response}

/-- The end of a line and the empty line behind it. -/
def emptyLine : Bytes := [13, 10, 13, 10]

/-- The octets up to the end of the first empty line; all of them if there is none. -/
def headOf : Bytes → Bytes
  | [] => []
  | octet :: rest =>
    if emptyLine <+: octet :: rest then emptyLine else octet :: headOf rest

/-- What the words of a request line are answered with. -/
def Answers (files : FileTree) (output : Path) : List Text → Response → Prop
  | method :: target :: _, response => respond files output method target = .ok response
  | _, response => response = .notice .badRequest

/-- Octets that are one response and no more. -/
structure Framed (headOnly : Bool) (response : Response) (octets : Bytes) : Prop where
  /-- A client reads the status, the fields and the body, and nothing is left. -/
  read : readMessage? headOnly octets = some (response.message headOnly, [])
  /-- The one field about the length states that of the body, also if the body is left out. -/
  length : bodyLength? (response.message headOnly).fields = some response.body.length
  /-- There is an empty line. -/
  ends : emptyLine <:+ headOf octets
  /-- Behind the first empty line is the body. -/
  whole : octets = headOf octets ++ if headOnly then [] else response.body

section Cutting

theorem ne_return_of_visible {character : Char} (visible : isVisible character = true) :
    UInt8.ofNat character.toNat ≠ 13 := by
  intro same
  simp only [isVisible, Bool.and_eq_true, decide_eq_true_eq] at visible
  have value : (UInt8.ofNat character.toNat).toNat = character.toNat :=
    Utf8.toNat_ofNat (by omega)
  have thirteen : (13 : UInt8).toNat = 13 := rfl
  rw [same] at value
  omega

theorem headOf_cons {octet : UInt8} (other : octet ≠ 13) :
    headOf (octet :: rest) = octet :: headOf rest := by
  rw [headOf, if_neg]
  intro starts
  exact other (List.cons_prefix_cons.1 starts).1.symm

/-- An empty line is not looked for within a line. -/
theorem headOf_encode (visible : line.all isVisible = true) :
    headOf (Utf8.encode line ++ rest) = Utf8.encode line ++ headOf rest := by
  induction line with
  | nil => rfl
  | cons character line ih =>
      rw [List.all_cons, Bool.and_eq_true] at visible
      rw [Utf8.encode_cons, encodeChar_of_visible visible.1, List.singleton_append,
        List.cons_append, headOf_cons (ne_return_of_visible visible.1), ih visible.2,
        List.cons_append]

/-- The end of a line does not end the head if there is something in the next line. -/
theorem headOf_lineEnd (filled : rest.head? ≠ some 13) :
    headOf ([13, 10] ++ rest) = [13, 10] ++ headOf rest := by
  have more : ¬ emptyLine <+: 13 :: 10 :: rest := by
    intro starts
    obtain ⟨later, same⟩ := starts
    apply filled
    simp only [emptyLine, List.cons_append, List.cons.injEq, true_and] at same
    rw [← same]
    rfl
  rw [List.cons_append, headOf, List.singleton_append, if_neg more, headOf_cons (by decide)]
  rfl

theorem head?_encode (visible : line.all isVisible = true) (filled : line ≠ []) :
    (Utf8.encode line ++ rest).head? ≠ some 13 := by
  cases line with
  | nil => exact absurd rfl filled
  | cons character line =>
      rw [List.all_cons, Bool.and_eq_true] at visible
      rw [Utf8.encode_cons, encodeChar_of_visible visible.1]
      simpa using ne_return_of_visible visible.1

/-- The head ends with the fields, whatever the body is. -/
theorem headOf_fieldOctets (written : ∀ field ∈ fields, isFieldName field.1 = true ∧
      (field.1 ++ ": ".toList ++ field.2).all isVisible = true) :
    headOf ([13, 10] ++ (fieldOctets fields ++ ([13, 10] ++ rest))) =
      [13, 10] ++ (fieldOctets fields ++ [13, 10]) := by
  induction fields with
  | nil =>
      have starts : emptyLine <+: 13 :: 10 :: 13 :: 10 :: rest := ⟨rest, rfl⟩
      exact if_pos starts
  | cons field fields ih =>
      obtain ⟨⟨-, visible⟩, others⟩ := List.forall_mem_cons.1 written
      have filled : field.1 ++ ": ".toList ++ field.2 ≠ [] := by simp
      have split : fieldOctets (field :: fields) =
          Utf8.encode (field.1 ++ ": ".toList ++ field.2) ++ ([13, 10] ++ fieldOctets fields) := by
        rw [fieldOctets, List.flatMap_cons, List.append_assoc, ← fieldOctets]
      rw [split, List.append_assoc (Utf8.encode _), headOf_lineEnd (head?_encode visible filled),
        headOf_encode visible, List.append_assoc [13, 10], ih others]
      simp only [List.append_assoc]

/-- The first empty line of a response is the end of its head. -/
theorem headOf_octets (visible : response.contentType.all isVisible = true) (method : Text) :
    headOf (response.octets method) = Utf8.encode response.head := by
  unfold Response.octets
  rw [encode_head response false]
  simp only [List.append_assoc]
  rw [headOf_encode (visible_line response.status),
    headOf_fieldOctets (written_fields visible false)]

theorem emptyLine_suffix_head (response : Response) :
    emptyLine <:+ Utf8.encode response.head := by
  have last : "\r\n\r\n".toList <:+ "Connection: close\r\n\r\n".toList := by decide
  have ends : "\r\n\r\n".toList <:+ response.head := List.suffix_append_of_suffix last
  obtain ⟨front, whole⟩ := ends
  refine ⟨Utf8.encode front, ?_⟩
  rw [← whole, Utf8.encode_append]
  rfl

/-- A response is written so that a client finds its parts. -/
theorem framed_octets (visible : response.contentType.all isVisible = true) (method : Text) :
    Framed (method = "HEAD".toList) response (response.octets method) where
  read := by
    have read := readMessage?_octets visible method []
    rwa [List.append_nil] at read
  length := readNumber?_ofNat response.body.length
  ends := by
    rw [headOf_octets visible]
    exact emptyLine_suffix_head response
  whole := by
    rw [headOf_octets visible]
    simp [Response.octets]

end Cutting

section Exchanges

theorem visible_of_answers (noSlash : '/' ∉ output.name)
    (answers : Answers files output words response) :
    response.contentType.all isVisible = true := by
  match words, answers with
  | [], answers | [_], answers =>
      obtain rfl := answers
      exact visible_notice .badRequest
  | _ :: _ :: _, answers => exact visible_respond noSlash answers

/-- An answer is that to the words of the request line. -/
theorem answers_of_answer (answered : answer files output received = .ok (method, target, response)) :
    ∃ words, requestWords received = .ok words ∧ Answers files output words response ∧
      asksHead words = decide (method = "HEAD".toList) := by
  unfold answer at answered
  obtain ⟨words, read, answered⟩ := bind_eq_ok_iff.1 answered
  refine ⟨words, read, ?_⟩
  match words, answered with
  | [], answered | [_], answered =>
      obtain ⟨rfl, rfl, rfl⟩ := by simpa [pure, Except.pure] using answered
      exact ⟨rfl, rfl⟩
  | _ :: _ :: _, answered =>
      obtain ⟨given, responded, answered⟩ := bind_eq_ok_iff.1 answered
      obtain ⟨rfl, rfl, rfl⟩ := by simpa [pure, Except.pure] using answered
      exact ⟨responded, rfl⟩

/-- The words of a request line with a method and a target decide what is written. -/
theorem exchange_of_words {more : List Text}
    (read : requestWords received = .ok (method :: target :: more)) :
    exchange files output received false =
      match respond files output method target with
      | .error fault => { fault := some fault }
      | .ok response =>
        { written := response.octets method
          logged := some (method ++ " ".toList ++ target ++ " -> ".toList ++
            Text.ofNat response.status.code) } := by
  have known : answer files output received =
      (respond files output method target).map fun response => (method, target, response) := by
    unfold answer
    simp only [read, bind, Except.bind]
    cases respond files output method target <;> rfl
  rw [exchange, known]
  cases respond files output method target <;> rfl

/-- Head and page are asked for in the same way. -/
theorem respond_head (files : FileTree) (output : Path) (target : Text) :
    respond files output "HEAD".toList target = respond files output "GET".toList target := by
  rw [respond_eq_bind (Or.inr rfl), respond_eq_bind (Or.inl rfl)]

/-- Whatever a client sends: if the exchange is completed, then what is written is one response, with
the body behind the first empty line for every method but `HEAD`.  What is written to a client that
asks for the head is what is written to one that asks for the page, up to that line. -/
theorem exchange_writes_one_response (files : FileTree) (root : Path) (received : Bytes) :
    let output := root.child Context.outputName
    let done := exchange files output received false
    (done.fault = none → ∃ words response, requestWords received = .ok words ∧
      Answers files output words response ∧ Framed (asksHead words) response done.written) ∧
    ∀ (asking : Bytes) (target : Text) (more others : List Text),
      requestWords received = .ok ("GET".toList :: target :: more) →
      requestWords asking = .ok ("HEAD".toList :: target :: others) →
        (exchange files output asking false).written = headOf done.written ∧
          (exchange files output asking false).fault = done.fault := by
  intro output done
  have noSlash : '/' ∉ output.name := by
    rw [Path.name_child]
    decide
  constructor
  · intro completed
    cases answered : answer files output received with
    | error fault => simp [done, exchange, answered] at completed
    | ok given =>
        obtain ⟨method, target, response⟩ := given
        obtain ⟨words, read, answers, head⟩ := answers_of_answer answered
        have written : done.written = response.octets method := by
          simp only [done, exchange, answered]
        refine ⟨words, response, read, answers, ?_⟩
        rw [head, written]
        exact framed_octets (visible_of_answers noSlash answers) method
  · intro asking target more others page head
    have same := respond_head files output target
    simp only [done, exchange_of_words page, exchange_of_words head, same]
    cases responded : respond files output "GET".toList target with
    | error fault => exact ⟨rfl, rfl⟩
    | ok response =>
        simp only [headOf_octets (visible_respond noSlash responded)]
        simp [Response.octets]

end Exchanges

end Server

namespace Server.Example

/-- The page itself is asked for. -/
def wholePageRequest : Bytes := Utf8.encode "GET / HTTP/1.1\r\n\r\n"

/-- A page is written behind its head, and its head alone for the other method. -/
theorem exchange_writes_page :
    let done := exchange guarded ⟨.here, ["public".toList]⟩ wholePageRequest false
    (∃ words response, requestWords wholePageRequest = .ok words ∧
      Answers guarded ⟨.here, ["public".toList]⟩ words response ∧
      Framed (asksHead words) response done.written) ∧
    (exchange guarded ⟨.here, ["public".toList]⟩ pageRequest false).written =
      headOf done.written := by
  obtain ⟨frames, cuts⟩ := exchange_writes_one_response guarded ⟨.here, []⟩ wholePageRequest
  have completed :
      (exchange guarded ⟨.here, ["public".toList]⟩ wholePageRequest false).fault = none := by
    decide +kernel
  have page : requestWords wholePageRequest =
      .ok ["GET".toList, "/".toList, "HTTP/1.1".toList] := by decide +kernel
  have head : requestWords pageRequest =
      .ok ["HEAD".toList, "/".toList, "HTTP/1.1".toList] := by decide +kernel
  exact ⟨frames completed, (cuts pageRequest _ _ _ page head).1⟩

end Server.Example

end StaticSite
