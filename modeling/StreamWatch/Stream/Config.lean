import StreamWatch.Environment
import StreamWatch.Json.Value
import StreamWatch.Link.Query
import StreamWatch.Stream.Identifier

/-! The stream under check: its identifier, password, room and site, and the two links that follow
from them, one to publish it and one to view it. A variable can set either link outright. -/
namespace StreamWatch.Stream

structure Config where
  stream : String
  noPassword : Bool
  password : String
  room : String
  bitrate : String
  roomInView : Bool
  sceneInView : Bool
  cleanOutput : String
  site : String
  pushLink : String
  viewLink : String
  deriving DecidableEq

namespace Config

def defaultSite : String := "https://vdo.ninja/"
def defaultStream : String := "Alsosuitbc"
def defaultPassword : String := "somepassword"
def defaultCleanOutput : String := "1"

def setUnlessEmpty (key value : String) (params : Link.Params) : Link.Params :=
  if value = "" then params else params.set key value

def siteLink (site action stream : String) (params : Link.Params) : String :=
  .ofList (Text.dropEndWhile (· == '/') site.toList ++ "/?".toList ++ action.toList ++ '=' ::
    linkForm stream ++ (if params = [] then [] else '&' :: params.encode))

def passwordOf (env : Environment) : String :=
  if env.text "VDO_NO_PASSWORD" = "1" then ""
  else if env.has "VDO_PASSWORD" then env.text "VDO_PASSWORD"
  else defaultPassword

def siteOf (env : Environment) : String :=
  let site := env.getOr "VDO_HOSTNAME" defaultSite
  if site = "" then defaultSite else site

def sharedParams (cleanOutput password : String) : Link.Params :=
  setUnlessEmpty "password" password (setUnlessEmpty "cleanoutput" cleanOutput [])

def pushParams (cleanOutput password room bitrate : String) : Link.Params :=
  setUnlessEmpty "bitrate" bitrate (setUnlessEmpty "room" room
    (((sharedParams cleanOutput password).set "autostart" "1").set "webcam" "1"))

def viewParams (cleanOutput password room : String) (roomInView sceneInView : Bool) :
    Link.Params :=
  let params := sharedParams cleanOutput password
  let params := if roomInView then params.set "room" room else params
  if roomInView && sceneInView then params.set "scene" "1" else params

def ofEnvironment (env : Environment) : Config :=
  let stream := env.getOr "VDO_STREAM_ID" defaultStream
  let password := passwordOf env
  let room := env.text "VDO_ROOM_ID"
  let bitrate := env.text "VDO_BITRATE"
  let roomInView := room != "" && env.text "VDO_VIEW_INCLUDE_ROOM" != "0"
  let sceneInView := room != "" && env.text "VDO_VIEW_INCLUDE_SCENE" != "0"
  let cleanOutput := env.getOr "VDO_CLEANOUTPUT" defaultCleanOutput
  let site := siteOf env
  { stream, password, room, bitrate, roomInView, sceneInView, cleanOutput, site
    noPassword := env.text "VDO_NO_PASSWORD" = "1"
    pushLink := (env.nonEmpty? "VDO_PUSH_URL").getD
      (siteLink site "push" stream (pushParams cleanOutput password room bitrate))
    viewLink := (env.nonEmpty? "VDO_VIEW_URL").getD
      (siteLink site "view" stream (viewParams cleanOutput password room roomInView sceneInView)) }

def hashedStream (c : Config) : Except Fault String :=
  (saltOf c.site).map (hashed c.stream (some c.password))

def fields (c : Config) : Except Fault (List (String × Json.Value)) :=
  c.hashedStream.map fun name => [
    ("streamId", .text c.stream), ("hashedStreamId", .text name),
    ("noPassword", .bool c.noPassword), ("password", .text c.password),
    ("roomId", .text c.room), ("bitrate", .text c.bitrate),
    ("includeRoomInView", .bool c.roomInView), ("includeSceneInView", .bool c.sceneInView),
    ("cleanoutput", .text c.cleanOutput), ("pushUrl", .text c.pushLink),
    ("viewUrl", .text c.viewLink)]

end Config
end StreamWatch.Stream
