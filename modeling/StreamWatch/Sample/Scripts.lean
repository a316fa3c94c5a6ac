/-! The two scripts that run in a page. The collector has to be in place before the page makes its
first peer connection; the snapshot reads the video elements and the statistics of every connection
that the collector has seen. -/
namespace StreamWatch.Sample

def collectorScript : String := "
(() => \x7b
  window.__pcList = [];
  const NativePC = window.RTCPeerConnection;
  if (!NativePC) \x7b
    return;
  \x7d
  window.RTCPeerConnection = function (...args) \x7b
    const pc = new NativePC(...args);
    window.__pcList.push(pc);
    return pc;
  \x7d;
  window.RTCPeerConnection.prototype = NativePC.prototype;
\x7d)();
"

def snapshotScript : String := "
async () => \x7b
  const bodyText = document.body ? document.body.innerText || \"\" : \"\";
  const videos = Array.from(document.querySelectorAll(\"video\")).map((v, index) => \x7b
    const stream = v.srcObject;
    const audioTracks = stream && stream.getAudioTracks ? stream.getAudioTracks().length : 0;
    const videoTracks = stream && stream.getVideoTracks ? stream.getVideoTracks().length : 0;
    return \x7b
      index,
      readyState: v.readyState,
      paused: v.paused,
      currentTime: v.currentTime,
      videoWidth: v.videoWidth,
      videoHeight: v.videoHeight,
      audioTracks,
      videoTracks,
    \x7d;
  \x7d);

  const pcStats = [];
  if (Array.isArray(window.__pcList)) \x7b
    for (const pc of window.__pcList) \x7b
      try \x7b
        const stats = await pc.getStats();
        let inboundVideoBytes = 0;
        let inboundAudioBytes = 0;
        let outboundVideoBytes = 0;
        let outboundAudioBytes = 0;
        let framesDecoded = 0;
        stats.forEach((s) => \x7b
          if (s.type === \"inbound-rtp\" && !s.isRemote) \x7b
            if (s.kind === \"video\") \x7b
              inboundVideoBytes += s.bytesReceived || 0;
              framesDecoded += s.framesDecoded || 0;
            \x7d
            if (s.kind === \"audio\") inboundAudioBytes += s.bytesReceived || 0;
          \x7d
          if (s.type === \"outbound-rtp\" && !s.isRemote) \x7b
            if (s.kind === \"video\") outboundVideoBytes += s.bytesSent || 0;
            if (s.kind === \"audio\") outboundAudioBytes += s.bytesSent || 0;
          \x7d
        \x7d);
        pcStats.push(\x7b
          state: pc.connectionState,
          inboundVideoBytes,
          inboundAudioBytes,
          outboundVideoBytes,
          outboundAudioBytes,
          framesDecoded,
        \x7d);
      \x7d catch (error) \x7b
        pcStats.push(\x7b error: String(error) \x7d);
      \x7d
    \x7d
  \x7d

  return \x7b
    url: location.href,
    title: document.title || \"\",
    textSample: bodyText.slice(0, 400),
    containsWaitingText: /Waiting for the stream/i.test(bodyText),
    videos,
    pcStats,
    timestamp: Date.now(),
  \x7d;
\x7d
"

end StreamWatch.Sample
