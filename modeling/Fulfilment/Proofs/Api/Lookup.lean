import Fulfilment.Api.Respond
import Fulfilment.Proofs.Text.Utf8
import Fulfilment.Proofs.Uuid
import Fulfilment.Proofs.Workflow.Process
import Mathlib.Data.List.Induction
import Mathlib.Data.List.TakeWhile

/-!
# Looking shipments up

The path that ends in the written form of an identifier has no character that a target would read
as something else.  So a request for it reaches the route of the shipment, or that of the order,
and is answered with the shipment that the tables hold, exactly as it is stored.
-/

namespace Fulfilment

namespace Text

/-- A small letter, a digit or a hyphen. -/
def isPlain (character : Char) : Bool :=
  character = '-' || (0x30 ≤ character.toNat && character.toNat ≤ 0x39)
    || (0x61 ≤ character.toNat && character.toNat ≤ 0x7A)

/-- A plain character is none that is not plain. -/
theorem ne_of_isPlain
    {character other : Char}
    (plain : isPlain character = true)
    (special : isPlain other = false) : character ≠ other := by
  rintro rfl
  rw [plain] at special
  cases special

/-- The written digits are plain. -/
theorem isPlain_hexDigit (digit : Fin 16) : isPlain (hexDigit digit) = true := by
  revert digit
  decide

/-- What stands before the first separator belongs to the first field. -/
theorem fields_append
    {separates : Char → Bool}
    {front rest first : List Char}
    {others : List (List Char)}
    (whole : ∀ character ∈ front, separates character = false)
    (split : fields separates rest = first :: others) :
    fields separates (front ++ rest) = (front ++ first) :: others := by
  induction front with
  | nil => exact split
  | cons character front ih =>
      have following := ih fun other member => whole other (.tail _ member)
      rw [List.cons_append, fields, if_neg (by simp [whole character (.head _)]), following]
      rfl

end Text

/-- The characters of a written identifier are plain. -/
theorem Uuid.isPlain_of_mem_characters
    {identifier : Uuid}
    {character : Char}
    (member : character ∈ identifier.characters) : Text.isPlain character = true := by
  rcases mem_hyphenate member with digit | rfl
  · obtain ⟨value, -, rfl⟩ := List.mem_map.mp digit
    exact Text.isPlain_hexDigit value
  · decide

namespace Api

/-- The path of some segments. -/
def pathOf (segments : List (List Char)) : List Char :=
  segments.flatMap fun segment => '/' :: segment

/-- A segment that stands for itself in every place. -/
structure IsPlain (segment : List Char) : Prop where
  nonempty : segment ≠ []
  plain : ∀ character ∈ segment, Text.isPlain character = true

/-- There are segments, and all of them are plain. -/
structure ArePlain (segments : List (List Char)) : Prop where
  nonempty : segments ≠ []
  plain : ∀ segment ∈ segments, IsPlain segment

instance (segment : List Char) : Decidable (IsPlain segment) :=
  decidable_of_iff (segment ≠ [] ∧ segment.all Text.isPlain = true)
    ⟨fun both => ⟨both.1, List.all_eq_true.mp both.2⟩,
      fun plain => ⟨plain.nonempty, List.all_eq_true.mpr plain.plain⟩⟩

/-- A written identifier is a plain segment. -/
theorem isPlain_characters (identifier : Uuid) : IsPlain identifier.characters where
  nonempty := by
    intro empty
    have sized := identifier.length_characters
    rw [empty] at sized
    cases sized
  plain _ member := Uuid.isPlain_of_mem_characters member

/-- A plain segment has no character of another kind. -/
theorem IsPlain.not_mem
    {segment : List Char}
    {special : Char}
    (plain : IsPlain segment)
    (other : Text.isPlain special = false) : special ∉ segment :=
  fun member => Text.ne_of_isPlain (plain.plain special member) other rfl

namespace ArePlain

variable {segments : List (List Char)}

/-- A path of plain segments has plain characters and slashes. -/
theorem mem_pathOf
    {character : Char}
    (plain : ArePlain segments)
    (member : character ∈ pathOf segments) :
    character = '/' ∨ Text.isPlain character = true := by
  obtain ⟨segment, inside, member⟩ := List.mem_flatMap.mp member
  rcases List.mem_cons.mp member with slash | member
  · exact .inl slash
  · exact .inr ((plain.plain segment inside).plain character member)

/-- A path of plain segments has none of the other characters. -/
theorem ne_of_mem_pathOf
    {character special : Char}
    (plain : ArePlain segments)
    (other : Text.isPlain special = false)
    (noSlash : special ≠ '/')
    (member : character ∈ pathOf segments) : character ≠ special := by
  rcases plain.mem_pathOf member with rfl | member
  · exact noSlash.symm
  · exact Text.ne_of_isPlain member other

/-- A path of plain segments begins with one slash. -/
theorem pathOf_eq_cons (plain : ArePlain segments) :
    ∃ first rest, pathOf segments = '/' :: first :: rest ∧ first ≠ '/' := by
  cases segments with
  | nil => exact absurd rfl plain.nonempty
  | cons segment others =>
      obtain ⟨nonempty, characters⟩ := plain.plain segment (.head _)
      cases segment with
      | nil => exact absurd rfl nonempty
      | cons first rest =>
          exact ⟨first, rest ++ pathOf others, rfl,
            Text.ne_of_isPlain (characters first (.head _)) (by decide)⟩

end ArePlain

/-! ## The destination of a plain path -/

/-- The fields of a path are its segments, behind an empty one. -/
theorem fields_pathOf
    {segments : List (List Char)}
    (plain : ∀ segment ∈ segments, IsPlain segment) :
    Text.fields (· = '/') (pathOf segments) = [] :: segments := by
  induction segments with
  | nil => rfl
  | cons segment others ih =>
      have following := ih fun other member => plain other (.tail _ member)
      have whole : ∀ character ∈ segment, decide (character = '/') = false := by
        intro character member
        have plainCharacter := (plain segment (.head _)).plain character member
        exact decide_eq_false (Text.ne_of_isPlain plainCharacter (by decide))
      have behind := Text.fields_append whole following
      rw [List.append_nil] at behind
      rw [pathOf, List.flatMap_cons, List.cons_append, Text.fields, if_pos (by decide)]
      exact congrArg ([] :: ·) behind

/-- Segments behind slashes, after a first one. -/
theorem intercalate_cons
    (first : List Char)
    (segments : List (List Char)) :
    ['/'].intercalate (first :: segments) = first ++ pathOf segments := by
  induction segments generalizing first with
  | nil => simp [List.intercalate, pathOf]
  | cons segment others ih =>
      rw [List.intercalate_cons_cons, ih segment]
      simp [pathOf]

/-- Without dot segments nothing is taken out. -/
theorem dropDots_eq_self
    {segments : List (List Char)}
    (noDot : ∀ segment ∈ segments, '.' ∉ segment) : Target.dropDots segments = segments := by
  induction segments using List.reverseRecOn with
  | nil => rfl
  | append_singleton segments segment ih =>
      have before := ih fun other member => noDot other (List.mem_append_left _ member)
      have last := noDot segment (List.mem_append_right _ (.head _))
      have noSingle : segment ≠ ['.'] := by
        rintro rfl
        simp at last
      have noDouble : segment ≠ ['.', '.'] := by
        rintro rfl
        simp at last
      rw [Target.dropDots] at before
      rw [Target.dropDots, List.foldl_append, before, List.foldl_cons, List.foldl_nil,
        if_neg noSingle, if_neg noDouble]

/-- A plain path has no dot segments. -/
theorem normalized_pathOf
    {segments : List (List Char)}
    (plain : ArePlain segments) : Target.normalized (pathOf segments) = pathOf segments := by
  have noDot : ∀ segment ∈ [] :: segments, '.' ∉ segment := by
    intro segment member
    rcases List.mem_cons.mp member with rfl | member
    · exact List.not_mem_nil
    · exact (plain.plain segment member).not_mem (by decide)
  rw [Target.normalized, fields_pathOf plain.plain, dropDots_eq_self noDot, intercalate_cons]
  rfl

/-- A text without percent signs has no escapes. -/
theorem unescapedBytes_eq_encodeChars
    {characters : List Char}
    (noPercent : '%' ∉ characters) : unescapedBytes characters = Text.encodeChars characters := by
  induction characters with
  | nil => rfl
  | cons character rest ih =>
      have other : character ≠ '%' := fun same => noPercent (same ▸ .head _)
      rw [unescapedBytes, ih fun member => noPercent (.tail _ member)]
      · simp [Text.encodeChars]
      · intro _ _ _ same
        exact absurd same other

theorem unescape_eq_self
    {characters : List Char}
    (noPercent : '%' ∉ characters) : unescape characters = characters := by
  rw [unescape, unescapedBytes_eq_encodeChars noPercent, Text.decodeLossy_encodeChars,
    String.toList_ofList]

/-- A plain path is decoded to itself. -/
theorem decodedPath_pathOf
    {segments : List (List Char)}
    (plain : ArePlain segments) : decodedPath (pathOf segments) = pathOf segments := by
  obtain ⟨first, rest, shape, -⟩ := plain.pathOf_eq_cons
  have noPercent : '%' ∉ pathOf segments := fun member =>
    plain.ne_of_mem_pathOf (by decide) (by decide) member rfl
  have nonempty : pathOf segments ≠ [] := by simp [shape]
  rw [decodedPath, if_neg nonempty, unescape_eq_self noPercent, unescape_eq_self noPercent]

/-- The characters of a plain path are visible and stay in a path. -/
theorem visible_of_mem_pathOf
    {segments : List (List Char)}
    {character : Char}
    (plain : ArePlain segments)
    (member : character ∈ pathOf segments) :
    isControl character = false ∧ staysInPath character = true := by
  rcases plain.mem_pathOf member with rfl | plainCharacter
  · decide
  · have differs {special : Char} (other : Text.isPlain special = false) : character ≠ special :=
      Text.ne_of_isPlain plainCharacter other
    have range : 0x2D ≤ character.toNat ∧ character.toNat ≤ 0x7A := by
      simp only [Text.isPlain, Bool.or_eq_true, Bool.and_eq_true, decide_eq_true_eq]
        at plainCharacter
      rcases plainCharacter with (rfl | digit) | letter
      · decide
      · omega
      · omega
    constructor
    · simp only [isControl, Bool.or_eq_false_iff, decide_eq_false_iff_not]
      omega
    · simp only [staysInPath, staysInQuery, Bool.and_eq_true, decide_eq_true_eq]
      refine ⟨⟨⟨⟨⟨⟨⟨⟨⟨?_, ?_⟩, ?_⟩, ?_⟩, ?_⟩, ?_⟩, ?_⟩, ?_⟩, ?_⟩, ?_⟩
      all_goals first | omega | exact differs (by decide)

/-- A text whose characters all stay is as long as it was. -/
theorem escapedLength_eq_length
    {stays : Char → Bool}
    {characters : List Char}
    (all : ∀ character ∈ characters, stays character = true) :
    escapedLength stays characters = characters.length := by
  induction characters with
  | nil => rfl
  | cons character rest ih =>
      rw [escapedLength, ih fun other member => all other (.tail _ member),
        if_pos (all character (.head _)), List.length_cons]

/-- A plain path names nothing but itself. -/
theorem ofText_pathOf
    {segments : List (List Char)}
    (plain : ArePlain segments) :
    Target.ofText (pathOf segments) = { path := pathOf segments } := by
  obtain ⟨first, rest, shape, single⟩ := plain.pathOf_eq_cons
  have noScheme : Target.scheme? (pathOf segments) = none := by
    rw [shape]
    rfl
  have without {special : Char} (other : Text.isPlain special = false) (noSlash : special ≠ '/') :
      ∀ character ∈ pathOf segments, decide (character ≠ special) = true := by
    intro character member
    exact decide_eq_true (plain.ne_of_mem_pathOf other noSlash member)
  have noFragment := @without '#' (by decide) (by decide)
  have noQuery := @without '?' (by decide) (by decide)
  simp only [Target.ofText, noScheme, Option.getD_none, List.takeWhile_eq_self_iff.mpr noFragment,
    List.dropWhile_eq_nil_iff.mpr noFragment, List.takeWhile_eq_self_iff.mpr noQuery,
    List.dropWhile_eq_nil_iff.mpr noQuery, List.tail_nil]
  rw [shape]
  split
  · next same =>
      cases same
      exact absurd rfl single
  · rfl

/-- A plain path that is not too long leads where it says. -/
theorem destination_pathOf
    {segments : List (List Char)}
    (plain : ArePlain segments)
    (short : (pathOf segments).length ≤ longestTarget) :
    destination (String.ofList (pathOf segments)) = .ok ⟨pathOf segments, []⟩ := by
  obtain ⟨first, rest, shape, single⟩ := plain.pathOf_eq_cons
  have visible : checkCharacters (pathOf segments) = .ok () := by
    have noControl : (pathOf segments).find? isControl = none := by
      rw [List.find?_eq_none]
      intro character member
      simp [(visible_of_mem_pathOf plain member).1]
    simp [checkCharacters, Nat.not_lt.mpr short, control?, noControl]
  have bare : Target.checkBare (pathOf segments) = .ok () := by
    rw [shape]
    unfold Target.checkBare
    split
    · next same =>
        cases same
        exact absurd rfl single
    · next same => cases same
    · rfl
  have rooted : '/' :: (pathOf segments).dropWhile (· = '/') = pathOf segments := by
    simp [shape, single]
  have fits : Target.checkLengths (pathOf segments) none = .ok () := by
    have sized := @escapedLength_eq_length staysInPath _ fun character member =>
      (visible_of_mem_pathOf plain member).2
    simp [Target.checkLengths, sized, Nat.not_lt.mpr short]
  have unhosted : Host.check [] = .ok () := by decide
  simp only [destination, String.toList_ofList, visible, ofText_pathOf plain, Target.destination,
    unhosted, Except.mapError, Target.port?, Target.isBare, Target.isAbsolute, bare, rooted, fits,
    normalized_pathOf plain, decodedPath_pathOf plain, if_true, decide_true, Bool.and_self,
    bind, Except.bind]
  rfl

/-! ## The routes of shipments -/

/-- The target of a request for a shipment. -/
def shipmentTarget (shippingId : Uuid) : String :=
  "/api/v1/shipping/" ++ shippingId.text

/-- The target of a request for the shipment of an order. -/
def orderTarget (orderId : Uuid) : String :=
  "/api/v1/shipping/by-order/" ++ orderId.text

/-- An identifier behind a few plain segments leads where it says. -/
theorem destination_identifier
    {segments : List (List Char)}
    {beginning : String}
    (plain : ∀ segment ∈ segments, IsPlain segment)
    (short : (pathOf segments).length ≤ 1024)
    (begins : beginning.toList = pathOf segments ++ ['/'])
    (identifier : Uuid) :
    destination (beginning ++ identifier.text) =
      .ok ⟨beginning.toList ++ identifier.characters, []⟩ := by
  have path : beginning.toList ++ identifier.characters =
      pathOf (segments ++ [identifier.characters]) := by
    simp [begins, pathOf]
  have target : beginning ++ identifier.text =
      String.ofList (beginning.toList ++ identifier.characters) := by
    rw [String.ofList_append, String.ofList_toList, Uuid.text]
  have arePlain : ArePlain (segments ++ [identifier.characters]) := by
    refine ⟨by simp, fun segment member => ?_⟩
    rcases List.mem_append.mp member with front | last
    · exact plain segment front
    · obtain rfl := List.mem_singleton.mp last
      exact isPlain_characters identifier
  have fits : (pathOf (segments ++ [identifier.characters])).length ≤ longestTarget := by
    rw [← path, begins, List.length_append, List.length_append, identifier.length_characters,
      List.length_singleton, longestTarget]
    omega
  rw [target, path]
  exact destination_pathOf arePlain fits

theorem destination_shipmentTarget (shippingId : Uuid) :
    destination (shipmentTarget shippingId) =
      .ok ⟨shipmentPath ++ shippingId.characters, []⟩ :=
  @destination_identifier ["api".toList, "v1".toList, "shipping".toList] _ (by decide) (by decide)
    rfl shippingId

theorem destination_orderTarget (orderId : Uuid) :
    destination (orderTarget orderId) = .ok ⟨orderPath ++ orderId.characters, []⟩ :=
  @destination_identifier ["api".toList, "v1".toList, "shipping".toList, "by-order".toList] _
    (by decide) (by decide) rfl orderId

/-- A plain segment is found behind its beginning. -/
theorem segmentBehind?_append
    {segment : List Char}
    (plain : IsPlain segment)
    (beginning : List Char) :
    segmentBehind? beginning (beginning ++ segment) = some (String.ofList segment) := by
  have noSlash : '/' ∉ segment := plain.not_mem (by decide)
  simp [segmentBehind?, plain.nonempty, noSlash]

/-- A plain segment is not found behind a beginning that has a slash more. -/
theorem segmentBehind?_eq_none
    {segment more : List Char}
    (plain : IsPlain segment)
    (slash : '/' ∈ more)
    (beginning : List Char) :
    segmentBehind? (beginning ++ more) (beginning ++ segment) = none := by
  rw [segmentBehind?, if_neg]
  rintro ⟨same, -⟩
  rw [List.length_append, List.take_length_add_append] at same
  have inside : '/' ∈ segment.take more.length := by
    rw [List.append_cancel_left same]
    exact slash
  exact plain.not_mem (by decide) (List.mem_of_mem_take inside)

/-- A path whose first segment begins with another letter is not that of the service's state. -/
theorem ne_healthPath
    {path : List Char}
    (second : path[1]? = some 'a') : ¬(path = healthPath ∨ path = healthPath ++ ['\n']) := by
  rintro (rfl | rfl)
  · exact absurd second (by decide)
  · exact absurd second (by decide)

theorem route?_shipmentPath (shippingId : Uuid) :
    route? (shipmentPath ++ shippingId.characters) = some (.shipment shippingId.text) := by
  have plain := isPlain_characters shippingId
  have order : orderPath = shipmentPath ++ "by-order/".toList := by decide
  have noOrder : segmentBehind? orderPath (shipmentPath ++ shippingId.characters) = none := by
    rw [order]
    exact segmentBehind?_eq_none plain (by decide) shipmentPath
  rw [route?, if_neg (ne_healthPath rfl), noOrder, segmentBehind?_append plain]
  rfl

theorem route?_orderPath (orderId : Uuid) :
    route? (orderPath ++ orderId.characters) = some (.shipmentOfOrder orderId.text) := by
  rw [route?, if_neg (ne_healthPath rfl), segmentBehind?_append (isPlain_characters orderId)]
  rfl

/-! ## The answers -/

open Fulfilment.Action Fulfilment.Change

variable {service : Service} {tables : Tables} {shipment : Shipment}

/-- A question to a service at rest is answered from its tables. -/
theorem perform_askStore
    (rests : service.Rests tables)
    (ask : Tables → α) : (askStore ask).perform service = (.ok (ask tables), service) := by
  have asked := service.perform_ask tables tables service.issued service.log ask
  rwa [rests.writing] at asked

/-- A request to get what a route answers is answered so. -/
theorem perform_respond
    {target : String}
    {path : List Char}
    {route : Route}
    {response : Response}
    (leads : destination target = .ok ⟨path, []⟩)
    (routed : route? path = some route)
    (answered : (answer route).perform service = (.ok response, service))
    (direct : response.isRedirect = false) :
    (respond "GET" target).perform service = (.ok response, service) := by
  have method : "GET".map Char.toUpper = "GET" := by
    rw [← String.toList_inj, String.toList_map]
    decide
  have got : "GET" ≠ "HEAD" := by decide
  simp [respond, leads, method, respondAt, respondTo, routed, perform_bind, answered, got, direct]

/-- A request for a shipment that is stored is answered with it. -/
theorem respond_shipmentTarget
    {shippingId : Uuid}
    (rests : service.Rests tables)
    (found : tables.shipment? shippingId = some shipment) :
    (respond "GET" (shipmentTarget shippingId)).perform service =
      (.ok (.ok (shipmentBody shipment)), service) := by
  refine perform_respond (destination_shipmentTarget shippingId) (route?_shipmentPath shippingId)
    ?_ rfl
  simp only [answer, Uuid.ofText?_text, perform_bind, perform_askStore rests, found,
    Option.elim_some, perform_pure]

/-- A request for the shipment of an order that has one is answered with it. -/
theorem respond_orderTarget
    {orderId : Uuid}
    (rests : service.Rests tables)
    (found : tables.shipmentOfOrder? orderId = some shipment) :
    (respond "GET" (orderTarget orderId)).perform service =
      (.ok (.ok (shipmentBody shipment)), service) := by
  refine perform_respond (destination_orderTarget orderId) (route?_orderPath orderId) ?_ rfl
  simp only [answer, Uuid.ofText?_text, perform_bind, perform_askStore rests, found,
    Option.elim_some, perform_pure]

end Api
end Fulfilment
