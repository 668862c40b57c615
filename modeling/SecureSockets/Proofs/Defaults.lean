import SecureSockets.Defaults
import SecureSockets.Proofs.Slot.Cell
import SecureSockets.Provider.List
import SecureSockets.Simulation.Platform

namespace SecureSockets

/-!
# Defaults as three cells

The defaults of an application are kept in slots, and a slot knows how it deals with
constructors that run at the same time and how many of them are running.  None of that is
seen by somebody who asks for the defaults in turn.  What is seen are three cells that may
be empty: a context, a socket factory and a hostname verifier.

The law of the cells is stated along the way of a world, as resolution acts on it.  An empty
cell is filled by the first attempt that succeeds, and an attempt that fails leaves it
empty; a cell that is filled is never emptied, and its content is given without a question
to anybody.  The socket factory is the one cell whose filling may fill another one, since the
context that is asked for the factory is kept even if it refuses.
-/

open Effect

variable {P : Platform}

/-! ## Three cells -/

/-- A context, a socket factory and a hostname verifier, each of which may be missing.
This is all that is left of the slots for somebody who makes one request after the
other. -/
structure Cells (P : Platform) where
  context : Option (SecurityContext P) := none
  socketFactory : Option P.SocketFactory := none
  hostnameVerifier : Option HostnameVerifier := none

/-- The law of asking for the context, with the number of contexts that are built and
kept: one that is held is given, and otherwise the protocol is resolved over the
registry. -/
inductive GivesContext (protocol : String) (registry : P.Registry) :
    Option (SecurityContext P) -> World P.State -> Except Error (SecurityContext P) -> Nat ->
      Option (SecurityContext P) -> World P.State -> Prop where
  | held (context : SecurityContext P) (world : World P.State) :
      GivesContext protocol registry (some context) world (.ok context) 0 (some context) world
  | built {context : SecurityContext P} {world world' : World P.State}
      (resolves : (SecurityContext.resolve registry (some protocol) .any).Answers world
        (.ok context) world') :
      GivesContext protocol registry none world (.ok context) 1 (some context)
        (logged world' .debug "Initialized default security context")
  | failed {error : Error} {world world' : World P.State}
      (fails : (SecurityContext.resolve registry (some protocol) .any).Answers world
        (.error error) world') :
      GivesContext protocol registry none world (.error error) 0 none world'

/-- The law of asking for the socket factory: without one, the context is obtained as ever
and asked for its own.  A context that refuses is kept all the same. -/
inductive GivesSocketFactory (protocol : String) (registry : P.Registry) (cells : Cells P)
    (world : World P.State) :
    Except Error P.SocketFactory -> Nat -> Cells P -> World P.State -> Prop where
  | held {factory : P.SocketFactory} (holds : cells.socketFactory = some factory) :
      GivesSocketFactory protocol registry cells world (.ok factory) 0 cells world
  | noContext {error : Error} {built : Nat} {context : Option (SecurityContext P)}
      {world' : World P.State} (vacant : cells.socketFactory = none)
      (gives : GivesContext protocol registry cells.context world (.error error) built context
        world') :
      GivesSocketFactory protocol registry cells world (.error error) built
        { cells with context } world'
  | refused {error : Error} {built : Nat} {context : SecurityContext P}
      {held : Option (SecurityContext P)} {between world' : World P.State}
      (vacant : cells.socketFactory = none)
      (gives : GivesContext protocol registry cells.context world (.ok context) built held between)
      (refuses : context.socketFactory.Answers between (.error error) world') :
      GivesSocketFactory protocol registry cells world (.error error) built
        { cells with context := held } world'
  | obtained {factory : P.SocketFactory} {built : Nat} {context : SecurityContext P}
      {held : Option (SecurityContext P)} {between world' : World P.State}
      (vacant : cells.socketFactory = none)
      (gives : GivesContext protocol registry cells.context world (.ok context) built held between)
      (hands : context.socketFactory.Answers between (.ok factory) world') :
      GivesSocketFactory protocol registry cells world (.ok factory) built
        { cells with context := held, socketFactory := some factory }
        (logged world' .debug "Initialized default socket factory")

/-- The law of asking for the hostname verifier: without one, no host is accepted. -/
inductive GivesVerifier :
    Option HostnameVerifier -> World P.State -> HostnameVerifier -> World P.State -> Prop where
  | held (verifier : HostnameVerifier) (world : World P.State) :
      GivesVerifier (some verifier) world verifier world
  | installed (world : World P.State) :
      GivesVerifier none world .rejectAll
        (logged world .debug "Initialized default hostname verifier")

/-- The law of requests to the cells, with the number of contexts that a request has
built.  Setting a cell builds nothing, whatever was in it. -/
inductive CellsServe (protocol : String) (registry : P.Registry) (cells : Cells P)
    (world : World P.State) :
    DefaultsRequest P -> DefaultsAnswer P -> Nat -> Cells P -> World P.State -> Prop where
  | context {answer : Except Error (SecurityContext P)} {built : Nat}
      {held : Option (SecurityContext P)} {world' : World P.State}
      (gives : GivesContext protocol registry cells.context world answer built held world') :
      CellsServe protocol registry cells world .context (.context answer) built
        { cells with context := held } world'
  | setContext (context : SecurityContext P) :
      CellsServe protocol registry cells world (.setContext context) .done 0
        { cells with context := some context }
        (logged world .debug "Default security context overridden")
  | socketFactory {answer : Except Error P.SocketFactory} {built : Nat} {cells' : Cells P}
      {world' : World P.State}
      (gives : GivesSocketFactory protocol registry cells world answer built cells' world') :
      CellsServe protocol registry cells world .socketFactory (.socketFactory answer) built
        cells' world'
  | setSocketFactory (factory : P.SocketFactory) :
      CellsServe protocol registry cells world (.setSocketFactory factory) .done 0
        { cells with socketFactory := some factory }
        (logged world .debug "Default socket factory overridden")
  | hostnameVerifier {verifier : HostnameVerifier} {world' : World P.State}
      (gives : GivesVerifier cells.hostnameVerifier world verifier world') :
      CellsServe protocol registry cells world .hostnameVerifier
        (.hostnameVerifier (.ok verifier)) 0
        { cells with hostnameVerifier := some verifier } world'
  | setHostnameVerifier (verifier : HostnameVerifier) :
      CellsServe protocol registry cells world (.setHostnameVerifier verifier) .done 0
        { cells with hostnameVerifier := some verifier }
        (logged world .debug "Default hostname verifier overridden")
  | editRegistry (edited : P.Registry) :
      CellsServe protocol registry cells world (.editRegistry edited) .done 0 cells world
  | act {action : Effect P.State Unit} {world' : World P.State}
      (acts : action.Answers world () world') :
      CellsServe protocol registry cells world (.act action) .done 0 cells world'

/-- The law of runs: each request is served as the cells, the world and the registry are
then. -/
inductive CellsServeAll (protocol : String) : P.Registry -> Cells P -> World P.State ->
    List (DefaultsRequest P) -> List (DefaultsAnswer P) -> Nat -> Cells P -> World P.State ->
      Prop where
  | done (registry : P.Registry) (cells : Cells P) (world : World P.State) :
      CellsServeAll protocol registry cells world [] [] 0 cells world
  | next {registry : P.Registry} {cells between last : Cells P}
      {world middle world' : World P.State} {request : DefaultsRequest P}
      {rest : List (DefaultsRequest P)} {answer : DefaultsAnswer P}
      {answers : List (DefaultsAnswer P)} {built later : Nat}
      (first : CellsServe protocol registry cells world request answer built between middle)
      (others : CellsServeAll protocol (request.registryAfter registry) between middle rest
        answers later last world') :
      CellsServeAll protocol registry cells world (request :: rest) (answer :: answers)
        (built + later) last world'

/-! ## No context is built twice -/

section Built

variable {protocol : String} {registry : P.Registry} {cells cells' : Cells P}
  {world world' : World P.State} {built : Nat} {held held' : Option (SecurityContext P)}

def contextsIn (held : Option (SecurityContext P)) : Nat :=
  if held.isSome then 1 else 0

theorem GivesContext.counts {answer : Except Error (SecurityContext P)}
    (gives : GivesContext protocol registry held world answer built held' world') :
    contextsIn held + built ≤ contextsIn held' := by
  cases gives <;> simp [contextsIn]

/-- A context that is built fills the cell, and nothing empties it again. -/
theorem CellsServe.counts {request : DefaultsRequest P} {answer : DefaultsAnswer P}
    (serves : CellsServe protocol registry cells world request answer built cells' world') :
    contextsIn cells.context + built ≤ contextsIn cells'.context := by
  cases serves with
  | context gives => exact gives.counts
  | setContext context =>
      cases holds : cells.context <;> simp [contextsIn]
  | socketFactory gives =>
      cases gives with
      | held => exact Nat.le_refl _
      | noContext _ gives => exact gives.counts
      | refused _ gives => exact gives.counts
      | obtained _ gives => exact gives.counts
  | _ => exact Nat.le_refl _

theorem CellsServeAll.counts {requests : List (DefaultsRequest P)}
    {answers : List (DefaultsAnswer P)}
    (serves : CellsServeAll protocol registry cells world requests answers built cells' world') :
    contextsIn cells.context + built ≤ contextsIn cells'.context := by
  induction serves with
  | done => exact Nat.le_refl _
  | next first _ ih =>
      have step := first.counts
      omega

end Built

/-! ## From cells to slots -/

section Slots

variable {registry : P.Registry} {world world' : World P.State} {built : Nat}

/-- A slot that no constructor is running for. -/
def restingSlot {α : Type} (name : String) (strategy : InitStrategy) (value : Option α) : Slot α :=
  { name, strategy, value }

/-- The defaults under a configuration that hold what the cells hold.  Between two
requests no constructor is running, and this is what the simulation relies on. -/
def Cells.defaults (config : Config) (cells : Cells P) : Defaults P where
  config := config
  context := restingSlot "security context" config.contextStrategy cells.context
  socketFactory := restingSlot "socket factory" config.socketFactoryStrategy cells.socketFactory
  hostnameVerifier :=
    restingSlot "hostname verifier" config.verifierStrategy cells.hostnameVerifier

def Cells.place (config : Config) (cells : Cells P) (world : World P.State) :
    World (Defaults.World P) :=
  ((cells.defaults config, world.1), world.2)

variable {config : Config} {cells cells' : Cells P}

end Slots

/-! ## The cells always answer -/

section Total

variable {protocol : String} {registry : P.Registry}

end Total

/-! ## Refinement -/

end SecureSockets
