/-
This file settles which sequences of operations keep the accounts of providers coherent throughout.
-/

import FieldService.Accounts.Replacement

namespace FieldService.Accounts

open Auth Commands Execution

namespace Store

variable {settings : AccountSettings} {store : Store}

/-! ### Any operation -/

theorem Sound.step (sound : store.Sound settings) (action : AccountAction) :
    (store.step settings action).Sound settings := by
  rw [Store.step, AccountAction.commands]
  cases action.operation with
  | createProvider dto => exact sound.createProvider action.drawn dto action.reach
  | replaceProvider dto => exact sound.replaceProvider action.drawn dto action.reach
  | deleteProvider id => exact sound.deleteProvider action.drawn id action.reach
  | createDealer dto => exact sound.createDealer action.drawn dto action.reach
  | replaceDealer dto => exact sound.replaceDealer action.drawn dto action.reach
  | deleteDealer id => exact sound.deleteDealer action.drawn id action.reach

theorem coherent_step_iff (sound : store.Sound settings) (coherent : store.Coherent settings)
    (action : AccountAction) :
    (store.step settings action).Coherent settings ↔ store.KeepsWhole settings action := by
  rw [Store.step, AccountAction.commands, KeepsWhole]
  cases action.operation with
  | createProvider dto => exact createProvider_iff sound coherent action.drawn dto action.reach
  | replaceProvider dto => exact replaceProvider_iff sound coherent action.drawn dto action.reach
  | deleteProvider id =>
    exact iff_of_true (coherent_deleteProvider coherent action.drawn id action.reach) trivial
  | createDealer dto => exact createDealer_iff sound coherent action.drawn dto action.reach
  | replaceDealer dto => exact replaceDealer_iff sound coherent action.drawn dto action.reach
  | deleteDealer id => exact deleteDealer_iff sound coherent action.drawn id action.reach

theorem coherent_empty (settings : AccountSettings) : empty.Coherent settings where
  login _ member := by cases member
  dealer _ member := by cases member
  worker _ member := by cases member
  distinct _ member := by cases member

end Store

/-- Accounts are coherent throughout a run exactly if every operation in it meets its condition. -/
theorem coherent_throughout_iff (settings : AccountSettings) (actions : List AccountAction) :
    Throughout (Store.step settings) (Store.Coherent settings) Store.empty actions ↔
      Along (Store.step settings) (Store.KeepsWhole settings) Store.empty actions :=
  throughout_iff_along (Store.step settings) (Store.KeepsWhole settings) (Store.Sound settings)
    (Store.Coherent settings) (fun _ action sound => sound.step action)
    (fun _ action sound coherent => Store.coherent_step_iff sound coherent action) Store.empty
    actions (Store.sound_empty settings) (Store.coherent_empty settings)

def exampleAccountSettings : AccountSettings where
  toLowerCase := id
  toLowerCase_toLowerCase _ := rfl
  hash password := "hashed " ++ password

/-- A dealer is created, and its profile is replaced by the service of the providers, as it is. -/
def exampleAccountActions : List AccountAction :=
  let profile : ProfileDto := ⟨none, "60123456789", "dealer@example.com", none, .undefined⟩
  let drawn : Drawn := ⟨⟨"3e5c", by decide⟩, ⟨0, ⟨"3e5d", by decide⟩⟩⟩
  [⟨.createDealer ⟨none, profile, some "a password"⟩, drawn, 5⟩,
    ⟨.replaceProvider ⟨{ profile with id := some ⟨"3e5c", by decide⟩ }, none⟩, drawn, 4⟩]

/-- Every command comes through, and the profile of the dealer is no dealer's any more. -/
theorem not_coherent_throughout_replaced :
    ¬Throughout (Store.step exampleAccountSettings) (Store.Coherent exampleAccountSettings)
      Store.empty exampleAccountActions := by
  intro throughout
  have coherent := throughout exampleAccountActions List.prefix_rfl
  have provider : (run (Store.step exampleAccountSettings) Store.empty
      exampleAccountActions).providers.find ⟨"3e5c", by decide⟩ =
        some ⟨⟨"3e5c", by decide⟩, "60123456789", "dealer@example.com", .independent, none,
          none⟩ := by
    decide +kernel
  have dealer : (run (Store.step exampleAccountSettings) Store.empty
      exampleAccountActions).dealers.find ⟨"3e5c", by decide⟩ =
        some ⟨⟨"3e5c", by decide⟩, some ⟨"3e5c", by decide⟩, none⟩ := by
    decide +kernel
  have isProfile := (coherent.dealer _ (Table.find_key _ provider).1 rfl).mpr
    ⟨_, (Table.find_key _ dealer).1, rfl, rfl⟩
  cases isProfile

end FieldService.Accounts
