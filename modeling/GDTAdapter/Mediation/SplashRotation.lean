import GDTAdapter.Mediation.Told
import GDTAdapter.Splash.Pipeline
import Mathlib.Logic.Function.Iterate
import Mathlib.Data.Nat.ModEq

namespace GDTAdapter.Mediation

open Reactive

/-! # The rotation of a splash scene

`MEMobipubAdapter` shows the splashes of `MobiSplash` and tells `MESplashAdManager`
what it hears of them, and the manager turns the rotation of the scene.
-/

namespace Configured

variable {self other : Configured} {sceneId : String}

section Shows

variable {count : Nat} (shows : Nat)

end Shows

end Configured

namespace Manager

variable {self : Manager} {sceneId : String}

end Manager

/-- A scene whose adapter stays with it. -/
structure SplashScene where
  adapter : MEBaseAdapter
  needShow : Bool := false
  pipeline : Splash.Pipeline := {}
  manager : Manager

namespace SplashScene

def adHasExpired : NSError where
  domain := "ad has expired"
  code := 10010
  localizedDescription := none

/-- The methods of `MobiSplashDelegate`.  The manager only passes clicks on, and what
is logged beside is left out. -/
def relay? (needShow : Bool) (adapter : MEBaseAdapter) : Splash.Output → Option Manager.Input
  | .host .splashAdSuccessPresentScreen => some (.adapterShowSuccess adapter)
  | .host (.splashAdFailToPresent error) =>
      if needShow then some (.adapterShowFailure adapter error) else none
  | .host .splashAdDidExpire =>
      if needShow then some (.adapterShowFailure adapter adHasExpired) else none
  | .host .splashAdClosed => some (.adapterClose adapter)
  | _ => none

def hear (result : Splash.Pipeline × List Splash.Output) (self : SplashScene) :
    SplashScene × List Output :=
  let told := result.2.filterMap (relay? self.needShow self.adapter)
  ({ self with
      pipeline := result.1
      manager := (Manager.machine MESplashAdManager).after self.manager told },
    (Manager.machine MESplashAdManager).trace self.manager told)

/-- `loadAndShowSplashWithPosid:delay:bottomView:` -/
def loadAndShowSplash (reading : Reading) (topVC : Bool) (keyWindow : Option UIWindow)
    (self : SplashScene) : SplashScene × List Output :=
  if topVC then
    let self := { self with needShow := true }
    self.hear (self.pipeline.loadSplashAdAndShow reading keyWindow)
  else (self, [])

inductive Input where
  | loadAndShowSplash (reading : Reading) (topVC : Bool) (keyWindow : Option UIWindow)
  | stopSplashRender
  /-- The config server, the timers, GDT, and who else uses `MobiSplash`. -/
  | mobi (input : Splash.Pipeline.Input)
  /-- The app, the configuration and the other adapters. -/
  | manager (input : Manager.Input)

def step (self : SplashScene) : Input → SplashScene × List Output
  | .loadAndShowSplash reading topVC keyWindow => self.loadAndShowSplash reading topVC keyWindow
  | .stopSplashRender => ({ self with needShow := false }, [])
  | .mobi input => self.hear (self.pipeline.step input)
  | .manager input =>
      let (manager, outputs) := self.manager.step MESplashAdManager input
      ({ self with manager }, outputs)

def enabled (self : SplashScene) : Input → Prop
  | .mobi input => self.pipeline.enabled input
  | .manager input => self.manager.enabled MESplashAdManager input
  | _ => True

def machine : Machine SplashScene Input Output where
  enabled := enabled
  step := step

variable {self : SplashScene} {count : Nat}

/-- How often a step counts the scene for what GDT reports. -/
def counts (self : SplashScene) : Input → Nat
  | .mobi input => self.pipeline.adds input
  | _ => 0

/-- The presentations and the exposures that are heard of in a run. -/
def heard (self : SplashScene) : List Input → Nat
  | [] => 0
  | input :: rest => self.counts input + heard (machine.next self input) rest

/-- Neither is a configuration dispatched nor does another adapter report a show. -/
def Input.within : Input → Prop
  | .manager (.configure _) => False
  | .manager (.adapterShowSuccess _) => False
  | _ => True

/-- The networks that the next load of the scene chooses. -/
def chosen (self : SplashScene) : List StrategyResultModel :=
  self.manager.configured.getPosidBySortType .none self.adapter.sceneId

def listInfo (self : SplashScene) : Option MEConfigList :=
  self.manager.configured.listInfo self.adapter.sceneId

def valid : Reading where
  now := 0
  isAdValid _ := true
  expiredTimestamp _ := 0

end SplashScene

end GDTAdapter.Mediation
