import Conformance.RuleFile

/-! The JSON form of rule files, written with every member and read strictly. -/

namespace Conformance

open RecordReader

instance : JsonForm Term where
  toJson t := .object [("id", toJson t.id), ("name", toJson t.name)]
  ofJson? := run do
    let id ← required "id"
    let name ← optional "name" ""
    return { id, name }

instance : JsonForm SampleCategory where
  toJson c := .object [("id", toJson c.id), ("name", toJson c.name),
    ("sampleTypes", toJson c.sampleTypes)]
  ofJson? := run do
    let id ← required "id"
    let name ← optional "name" ""
    let sampleTypes ← optional "sampleTypes" []
    return { id, name, sampleTypes }

instance : JsonForm RuleFileMetadata where
  toJson m := .object [("title", toJson m.title), ("version", toJson m.version),
    ("language", toJson m.language), ("contentTypes", toJson m.contentTypes),
    ("sampleCategories", toJson m.sampleCategories), ("blockOrders", toJson m.blockOrders)]
  ofJson? := run do
    let title ← optional "title" ""
    let version ← optional "version" ""
    let language ← optional "language" ""
    let contentTypes ← optional "contentTypes" []
    let sampleCategories ← optional "sampleCategories" []
    let blockOrders ← optional "blockOrders" ∅
    return { title, version, language, contentTypes, sampleCategories, blockOrders }

instance : JsonForm Criterion where
  toJson p := .object [("id", toJson p.id), ("requirement", toJson p.requirement),
    ("failureStatementTemplate", toJson p.failureTemplate)]
  ofJson? := run do
    let id ← required "id"
    let requirement ← optional "requirement" ""
    let failureTemplate ← optional "failureStatementTemplate" ""
    return { id, requirement, failureTemplate }

instance : JsonForm Check where
  toJson c := .object [("id", toJson c.id), ("condition", toJson c.condition),
    ("logic", toJson c.logic), ("passCriteria", toJson c.criteria)]
  ofJson? := run do
    let id ← required "id"
    let condition ← optional "condition" ""
    let logic ← optional "logic" .all
    let criteria ← optional "passCriteria" []
    return { id, condition, logic, criteria }

instance : JsonForm Requirement where
  toJson r := .object [("key", toJson r.key), ("id", toJson r.id), ("title", toJson r.title),
    ("standardReference", toJson r.standardReference), ("contentType", toJson r.contentTypes),
    ("checks", toJson r.checks), ("infoBlocks", toJson r.infoBlocks), ("metadata", r.metadata)]
  ofJson? := run do
    let key ← required "key"
    let id ← optional "id" ""
    let title ← optional "title" ""
    let standardReference ← optional "standardReference" ""
    let contentTypes ← optional "contentType" []
    let checks ← optional "checks" []
    let infoBlocks ← optional "infoBlocks" ∅
    let metadata ← optional "metadata" Json.null
    return { key, id, title, standardReference, contentTypes, checks, infoBlocks, metadata }

instance : JsonForm RuleFile where
  toJson f := .object [("metadata", toJson f.metadata), ("requirements", toJson f.requirements)]
  ofJson? := run do
    let metadata ← optional "metadata" {}
    let requirements ← required "requirements"
    return { metadata, requirements }

end Conformance
