import Mathlib.Data.List.Basic

namespace PetlibroRelay
namespace Protocol

/-!
# Command names and topics

Every device topic has the shape `dl/<product>/<device>/device/<category>/<direction>`.
Routing reads nothing else, so a topic either parses completely or not at all.
-/

/-- The product a topic is built for when none has been observed. -/
def PRODUCT_ID : String := "PLAF203"

def POST_SUFFIX : String := "post"
def SUB_SUFFIX : String := "sub"
def TOPIC_ROOT : String := "dl"
def DEVICE_SEGMENT : String := "device"

namespace Command

def NTP : String := "NTP"
def NTP_SYNC : String := "NTP_SYNC"
def FEEDING_PLAN_SERVICE : String := "FEEDING_PLAN_SERVICE"
def ATTR_SET_SERVICE : String := "ATTR_SET_SERVICE"
def ATTR_GET_SERVICE : String := "ATTR_GET_SERVICE"
def SERVER_CONFIG_PUSH : String := "SERVER_CONFIG_PUSH"
def DEVICE_CONFIG_SYNC : String := "DEVICE_CONFIG_SYNC"
def HEARTBEAT : String := "HEARTBEAT"
def DEVICE_START_EVENT : String := "DEVICE_START_EVENT"
def MANUAL_FEEDING_SERVICE : String := "MANUAL_FEEDING_SERVICE"

end Command

/-- The four addressing fields every device topic carries. -/
structure TopicAddress where
  productId : String
  deviceId : String
  category : String
  direction : String
  deriving DecidableEq, Repr

/-- Whether the address names device-to-cloud traffic. -/
def TopicAddress.isPost (address : TopicAddress) : Bool :=
  decide (address.direction = POST_SUFFIX)

/-- The segments between the separators, empty ones included. -/
def segments (topic : String) : List String :=
  (topic.toList.splitOn '/').map String.ofList

theorem segments_append (first second : String) :
    segments (first ++ "/" ++ second) = segments first ++ segments second := by
  have joined : (first ++ "/" ++ second).toList = first.toList ++ '/' :: second.toList := by
    rw [String.toList_append, String.toList_append, List.append_assoc]
    rfl
  rw [segments, joined, List.splitOn_append_cons_self, List.map_append]
  rfl

/-- A text of one segment is that segment. -/
theorem eq_of_segments {text segment : String} (single : segments text = [segment]) :
    segment = text := by
  rcases List.map_eq_singleton_iff.mp single with ⟨characters, split, same⟩
  have whole : ['/'].intercalate (text.toList.splitOn '/') = text.toList :=
    List.intercalate_splitOn '/'
  rw [split, List.intercalate_singleton] at whole
  rw [← same, whole, String.ofList_toList]

/-- A text is determined by its segments. -/
theorem eq_of_segments_eq {first second : String} (same : segments first = segments second) :
    first = second := by
  have parts : first.toList.splitOn '/' = second.toList.splitOn '/' :=
    List.map_injective_iff.mpr (fun _ _ => String.ofList_injective) same
  have joined := congrArg ['/'].intercalate parts
  rw [List.intercalate_splitOn, List.intercalate_splitOn] at joined
  exact String.toList_inj.mp joined

/-- No separator is left in a segment. -/
theorem separator_notMem_splitOn (characters part : List Char)
    (member : part ∈ characters.splitOn '/') : '/' ∉ part := by
  induction characters generalizing part with
  | nil =>
      rw [List.splitOn_nil, List.mem_singleton] at member
      rw [member]
      exact List.not_mem_nil
  | cons character rest inductionHypothesis =>
      rw [List.splitOn_cons_eq_if_modifyHead] at member
      split at member
      · rcases List.mem_cons.mp member with empty | later
        · rw [empty]
          exact List.not_mem_nil
        · exact inductionHypothesis part later
      · next other =>
          obtain ⟨first, others, split⟩ := List.exists_cons_of_ne_nil (List.splitOn_ne_nil '/' rest)
          rw [split, List.modifyHead_cons] at member
          rw [split] at inductionHypothesis
          rcases List.mem_cons.mp member with extended | later
          · rw [extended, List.mem_cons, not_or]
            refine ⟨fun same => ?_, inductionHypothesis first List.mem_cons_self⟩
            rw [← same] at other
            exact other (beq_self_eq_true '/')
          · exact inductionHypothesis part (List.mem_cons_of_mem _ later)

/-- A segment is a text of one segment. -/
theorem segments_of_mem {topic segment : String} (member : segment ∈ segments topic) :
    segments segment = [segment] := by
  obtain ⟨part, split, rfl⟩ := List.mem_map.mp member
  rw [segments, String.toList_ofList,
    List.splitOn_eq_singleton (separator_notMem_splitOn _ _ split), List.map_singleton]

/-- Parse a device topic.  Anything that does not have exactly the expected
shape gives `none`. -/
def parseTopic (topic : String) : Option TopicAddress :=
  match segments topic with
  | [root, productId, deviceId, deviceSegment, category, direction] =>
      if root ≠ TOPIC_ROOT ∨ deviceSegment ≠ DEVICE_SEGMENT then none
      else if direction ≠ POST_SUFFIX ∧ direction ≠ SUB_SUFFIX then none
      else if productId = "" ∨ deviceId = "" ∨ category = "" then none
      else some ⟨productId, deviceId, category, direction⟩
  | _ => none

/-- The topic prefix of a device. -/
def topicPrefix (deviceId : String) (productId : String := PRODUCT_ID) : String :=
  TOPIC_ROOT ++ "/" ++ productId ++ "/" ++ deviceId

/-- The prefix an address belongs to. -/
def TopicAddress.topicPrefix (address : TopicAddress) : String :=
  Protocol.topicPrefix address.deviceId address.productId

/-- The cloud-to-device topic of a category. -/
def subTopic (deviceId category : String) (productId : String := PRODUCT_ID) : String :=
  topicPrefix deviceId productId ++ "/" ++ DEVICE_SEGMENT ++ "/" ++ category ++ "/" ++ SUB_SUFFIX

/-- A topic that parses has six segments, and they pass the checks. -/
theorem parseTopic_eq_some_iff {topic : String} {address : TopicAddress} :
    parseTopic topic = some address ↔
      segments topic = [TOPIC_ROOT, address.productId, address.deviceId, DEVICE_SEGMENT,
          address.category, address.direction] ∧
        (address.productId ≠ "" ∧ address.deviceId ≠ "" ∧ address.category ≠ "") ∧
        (address.direction = POST_SUFFIX ∨ address.direction = SUB_SUFFIX) := by
  constructor
  · intro parsed
    rw [parseTopic] at parsed
    split at parsed
    · next root productId deviceId deviceSegment category direction parts =>
        split at parsed
        · cases parsed
        · next fixed =>
            split at parsed
            · cases parsed
            · next directed =>
                split at parsed
                · cases parsed
                · next full =>
                    cases parsed
                    rw [not_or, not_not, not_not] at fixed
                    rw [not_or, not_or] at full
                    rw [not_and_or, not_not, not_not] at directed
                    rw [parts, fixed.1, fixed.2]
                    exact ⟨rfl, full, directed⟩
    · cases parsed
  · rintro ⟨parts, ⟨product, device, category⟩, direction⟩
    have directed : ¬ (address.direction ≠ POST_SUFFIX ∧ address.direction ≠ SUB_SUFFIX) := by
      rw [not_and_or, not_not, not_not]
      exact direction
    rw [parseTopic, parts]
    simp only [ne_eq, not_true_eq_false, or_self, if_false, directed, product, device, category]

/-- The parts of a topic that parses. -/
theorem parts_of_parseTopic {topic : String} {address : TopicAddress}
    (parsed : parseTopic topic = some address) :
    segments topic = [TOPIC_ROOT, address.productId, address.deviceId, DEVICE_SEGMENT,
        address.category, address.direction] ∧
      address.productId ≠ "" ∧ address.deviceId ≠ "" := by
  obtain ⟨parts, ⟨product, device, -⟩, -⟩ := parseTopic_eq_some_iff.mp parsed
  exact ⟨parts, product, device⟩

/-- The segments of a cloud-to-device topic with something after it. -/
theorem segments_subTopic_append {category product : String}
    (categorySingle : segments category = [category]) (productSingle : segments product = [product])
    (deviceId rest : String) :
    segments (subTopic deviceId category product ++ rest) =
      TOPIC_ROOT :: product :: (segments deviceId ++
        (DEVICE_SEGMENT :: category :: segments (SUB_SUFFIX ++ rest))) := by
  have fixed : segments TOPIC_ROOT = [TOPIC_ROOT] ∧ segments DEVICE_SEGMENT = [DEVICE_SEGMENT] := by
    decide
  rw [subTopic, String.append_assoc, segments_append, segments_append, segments_append,
    topicPrefix, segments_append, segments_append, fixed.1, fixed.2, categorySingle,
    productSingle]
  simp only [List.cons_append, List.nil_append, List.append_assoc]

/-- What follows a cloud-to-device topic of a device, and the topic itself, can be
read back from the two together. -/
theorem subTopic_append_inj {deviceId : String} {category product rest : String}
    {otherCategory otherProduct otherRest : String}
    (categorySingle : segments category = [category]) (productSingle : segments product = [product])
    (otherCategorySingle : segments otherCategory = [otherCategory])
    (otherProductSingle : segments otherProduct = [otherProduct])
    (same : subTopic deviceId category product ++ rest =
      subTopic deviceId otherCategory otherProduct ++ otherRest) :
    product = otherProduct ∧ category = otherCategory ∧ rest = otherRest := by
  have parts := congrArg segments same
  rw [segments_subTopic_append categorySingle productSingle,
    segments_subTopic_append otherCategorySingle otherProductSingle] at parts
  simp only [List.cons.injEq, List.append_cancel_left_eq, true_and] at parts
  have ends := eq_of_segments_eq parts.2.2
  exact ⟨parts.1, parts.2.1, (String.append_right_inj _).mp ends⟩

/-! ## The grammar -/

/-- A text that can stand between two separators. -/
def IsSegment (text : String) : Prop := text ≠ "" ∧ '/' ∉ text.toList

theorem segments_eq_singleton_iff {text : String} : segments text = [text] ↔ '/' ∉ text.toList := by
  constructor
  · intro single separator
    obtain ⟨part, split, same⟩ := List.map_eq_singleton_iff.mp single
    have plain := separator_notMem_splitOn text.toList part (by rw [split]; exact List.mem_cons_self)
    rw [← same, String.toList_ofList] at separator
    exact plain separator
  · intro plain
    rw [segments, List.splitOn_eq_singleton plain, List.map_singleton, String.ofList_toList]

/-- An address whose fields are segments, written with its direction. -/
structure TopicAddress.Fits (address : TopicAddress) (topic : String) : Prop where
  written : address.topicPrefix ++ "/" ++ DEVICE_SEGMENT ++ "/" ++ address.category ++ "/" ++
    address.direction = topic
  product : IsSegment address.productId
  device : IsSegment address.deviceId
  category : IsSegment address.category
  direction : address.direction = POST_SUFFIX ∨ address.direction = SUB_SUFFIX

/-- The segments of a written address. -/
theorem segments_written (address : TopicAddress) (rest : String) :
    segments (address.topicPrefix ++ "/" ++ DEVICE_SEGMENT ++ "/" ++ address.category ++ "/" ++
        rest) =
      TOPIC_ROOT :: (segments address.productId ++ segments address.deviceId ++
        DEVICE_SEGMENT :: (segments address.category ++ segments rest)) := by
  have fixed : segments TOPIC_ROOT = [TOPIC_ROOT] ∧ segments DEVICE_SEGMENT = [DEVICE_SEGMENT] := by
    decide
  rw [segments_append, segments_append, segments_append, TopicAddress.topicPrefix, topicPrefix,
    segments_append, segments_append, fixed.1, fixed.2]
  simp only [List.cons_append, List.nil_append, List.append_assoc]

theorem segments_direction {direction : String}
    (directed : direction = POST_SUFFIX ∨ direction = SUB_SUFFIX) :
    segments direction = [direction] := by
  rcases directed with post | sub
  · rw [post]
    decide
  · rw [sub]
    decide

/-- A topic parses to an address exactly if it is the address, written out. -/
theorem parseTopic_eq_some_iff_fits {topic : String} {address : TopicAddress} :
    parseTopic topic = some address ↔ address.Fits topic := by
  rw [parseTopic_eq_some_iff]
  constructor
  · rintro ⟨parts, ⟨product, device, category⟩, direction⟩
    have plain : forall part, part ∈ segments topic -> '/' ∉ part.toList :=
      fun part member => segments_eq_singleton_iff.mp (segments_of_mem member)
    simp only [parts, List.forall_mem_cons] at plain
    obtain ⟨-, productPlain, devicePlain, -, categoryPlain, -⟩ := plain
    refine ⟨eq_of_segments_eq ?_, ⟨product, productPlain⟩, ⟨device, devicePlain⟩,
      ⟨category, categoryPlain⟩, direction⟩
    rw [segments_written, parts, segments_eq_singleton_iff.mpr productPlain,
      segments_eq_singleton_iff.mpr devicePlain, segments_eq_singleton_iff.mpr categoryPlain,
      segments_direction direction]
    rfl
  · intro fits
    refine ⟨?_, ⟨fits.product.1, fits.device.1, fits.category.1⟩, fits.direction⟩
    rw [← fits.written, segments_written, segments_eq_singleton_iff.mpr fits.product.2,
      segments_eq_singleton_iff.mpr fits.device.2, segments_eq_singleton_iff.mpr fits.category.2,
      segments_direction fits.direction]
    rfl

/-- A topic parses exactly if it is an address written out, the parsed fields rebuild it, and
a built cloud-to-device topic parses to what it was built from. -/
theorem topic_grammar :
    (forall topic address, parseTopic topic = some address ↔ address.Fits topic) ∧
      (forall deviceId category productId, IsSegment deviceId -> IsSegment category ->
        IsSegment productId -> parseTopic (subTopic deviceId category productId) =
          some ⟨productId, deviceId, category, SUB_SUFFIX⟩) ∧
      forall first second address, parseTopic first = some address ->
        parseTopic second = some address -> first = second := by
  refine ⟨fun _ _ => parseTopic_eq_some_iff_fits, ?_, ?_⟩
  · intro deviceId category productId device named product
    exact parseTopic_eq_some_iff_fits.mpr ⟨rfl, product, device, named, Or.inr rfl⟩
  · intro first second address parsed other
    rw [← (parseTopic_eq_some_iff_fits.mp parsed).written,
      (parseTopic_eq_some_iff_fits.mp other).written]

example : parseTopic "dl/PLAF203/A/device/service/post" =
    some ⟨"PLAF203", "A", "service", "post"⟩ := by decide

end Protocol
end PetlibroRelay
