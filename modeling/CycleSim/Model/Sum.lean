import CycleSim.Model.Basic

/-!
# One of two models

If two types are device models, so is their disjoint union: a value of it behaves as the model it
holds.
-/

namespace CycleSim

/-- An evaluation of a part, as one of the whole. -/
def Evaluation.mapModel {σ τ : Type} (f : σ → τ) (evaluation : Evaluation σ) : Evaluation τ where
  model := f evaluation.model
  events := evaluation.events
  draws := evaluation.draws
  result := evaluation.result

instance {σ τ : Type} [DeviceModel σ] [DeviceModel τ] : DeviceModel (σ ⊕ τ) where
  name := Sum.elim DeviceModel.name DeviceModel.name
  setClock level := Sum.map (DeviceModel.setClock level) (DeviceModel.setClock level)
  evaluate ctx := Sum.elim (fun model => (DeviceModel.evaluate ctx model).mapModel .inl)
    (fun model => (DeviceModel.evaluate ctx model).mapModel .inr)
  finalize := Sum.elim (fun model => (DeviceModel.finalize model).map id .inl)
    (fun model => (DeviceModel.finalize model).map id .inr)
  finished := Sum.elim DeviceModel.finished DeviceModel.finished

end CycleSim
