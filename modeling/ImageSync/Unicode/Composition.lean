import ImageSync.Unicode.Packed

/-!
# `ImageSync.Unicode.Composition`: characters made of others

Many characters are the same as a sequence of others. A composite is a character and a mark
in one, and such a sequence is written as the composite; the other equivalences are only
resolved, never formed. The syllables of Hangul are composed by arithmetic (`Hangul`).
-/

set_option autoImplicit false

namespace ImageSync.Unicode

/-- A character that is the same as two others. -/
structure Composite where
  whole : Nat
  first : Nat
  second : Nat
  deriving DecidableEq, Repr

/-- The composites of a list of numbers: the gap to the one before, and the two parts. -/
def compositesFrom (next : Nat) : List Nat → List Composite
  | gap :: first :: second :: r =>
    ⟨next + gap, first, second⟩ :: compositesFrom (next + gap + 1) r
  | _ => []

/-- The packed composites. -/
def packedComposites : String :=
  String.join [
    "c0Y1u00Y1u10Y1u20Y1u30Y1u80Y1uA1Y3v70Y5u00Y5u10Y5u20Y5u80Y9u00Y9u10Y9u20Y9u81YEu30YFu00YFu10YF",
    "u20YFu30YFu82YLu00YLu10YLu20YLu80YPu12Z1u00Z1u10Z1u20Z1u30Z1u80Z1uA1Z3v70Z5u00Z5u10Z5u20Z5u80Z",
    "9u00Z9u10Z9u20Z9u81ZEu30ZFu00ZFu10ZFu20ZFu30ZFu82ZLu00ZLu10ZLu20ZLu80ZPu11ZPu80Y1u40Z1u40Y1u60",
    "Z1u60Y1v80Z1v80Y3u10Z3u10Y3u20Z3u20Y3u70Z3u70Y3uC0Z3uC0Y4uC0Z4uC2Y5u40Z5u40Y5u60Z5u60Y5u70Z5u7",
    "0Y5v80Z5v80Y5uC0Z5uC0Y7u20Z7u20Y7u60Z7u60Y7u70Z7u70Y7v70Z7v70Y8u20Z8u22Y9u30Z9u30Y9u40Z9u40Y9u",
    "60Z9u60Y9v80Z9v80Y9u73YAu20ZAu20YBv70ZBv71YCu10ZCu10YCv70ZCv70YCuC0ZCuC4YEu10ZEu10YEv70ZEv70YE",
    "uC0ZEuC3YFu40ZFu40YFu60ZFu60YFuB0ZFuB2YIu10ZIu10YIv70ZIv70YIuC0ZIuC0YJu10ZJu10YJu20ZJu20YJv70Z",
    "Jv70YJuC0ZJuC0YKv70ZKv70YKuC0ZKuC2YLu30ZLu30YLu40ZLu40YLu60ZLu60YLuA0ZLuA0YLuB0ZLuB0YLv80ZLv80",
    "YNu20ZNu20YPu20ZPu20YPu80YQu10ZQu10YQu70ZQu70YQuC0ZQuCX1YFuR0ZFuRDYLuR0ZLuRSY1uC0Z1uC0Y9uC0Z9u",
    "C0YFuC0ZFuC0YLuC0ZLuC0cSu40dSu40cSu10dSu10cSuC0dSuC0cSu00dSu01c4u40d4u40n6u40n7u40c6u40d6u42Y7",
    "uC0Z7uC0YBuC0ZBuC0YFv80ZFv80lAu40lBu40jNuC0qIuC0ZAuC3Y7u10Z7u12YEu00ZEu00c5u10d5u10c6u10d6u10c",
    "Ou10dOu10Y1uF0Z1uF0Y1uH0Z1uH0Y5uF0Z5uF0Y5uH0Z5uH0Y9uF0Z9uF0Y9uH0Z9uH0YFuF0ZFuF0YFuH0ZFuH0YIuF0",
    "ZIuF0YIuH0ZIuH0YLuF0ZLuF0YLuH0ZLuH0YJv60ZJv60YKv60ZKv62Y8uC0Z8uC6Y1u70Z1u70Y5v70Z5v70cMu40dMu4",
    "0cLu40dLu40YFu70ZFu70nEu40nFu40YPu40ZPu4gHb8u10yHu11yLu10yNu10yPu11yVu11z5u10z9u10+Au1PyPu80z5",
    "u80zHu10zLu10zNu10zPu10+Bu1PzPu80+5u80zVu10+5u10+9u14+Iu10+Iu8XBXWLu00XWLu81XWJu13XW6u84XWQu10",
    "XWOu00XX3u6AXWOu6VXXOu6MXXLu00XXLu81XXJu13XYMu84XXQu10XXOu00XY3u6NXZKuF0XZLuFY9XWMu60XXMu6DXWG",
    "u60XXGu60XWGu80XXGu82XWLu60XXLu62XcOu80XcPu80XWMu80XXMu80XWNu80XXNu82XWOu40XXOu40XWOu80XXOu80X",
    "WUu80XXUu82Xd8u80Xd9u80XXDu80XYDu80XX3u40XY3u40XX3u80XY3u80XX3uB0XY3uB0XX7u80XY7u82XXBu80XYBu8",
    "f8Xn7XoJ0Xn7XoK0Xo8XoK0Xn7XoL0XoAXoKaPXsLXoK1Xs1XoKGXsIXoKoLYf8YfS7YfGYfS2YfJYfSaMYk7YjU0Yk7Yk",
    "NhRYw7YwM2Yw7YvU0Yw7YwNY7YyIY+NXLY+6YzU0Y+7YzU0Y+6Y+NZRZY6ZYMZNZbVZcL6Zc6ZcL0Zc6ZcM1Zc6Zc20ZcA",
    "ZcLZUZg6ZfU0Zg7ZfU0Zg6ZgNaDZkPZkA1ZkPZkF0ZkSZkA0ZkPZkVo7aX5aXEYsVcu5cvL1cu7cvL1cu9cvL1cuBcvL1c",
    "uDcvL3cuHcvLX8cvQcvL1cvScvL2cvUcvL0cvVcvL1cw2cvLrSY1v50Z1v50Y2u70Z2u70Y2v30Z2v30Y2vH0Z2vH0c7u1",
    "0d7u10Y4u70Z4u70Y4v30Z4v30Y4vH0Z4vH0Y4v70Z4v70Y4vD0Z4vD0eIu00eJu00eIu10eJu10Y5vD0Z5vD0Y5vG0Z5v",
    "G0n8u60n9u60Y6u70Z6u70Y7u40Z7u40Y8u70Z8u70Y8v30Z8v30Y8u80Z8u80Y8v70Z8v70Y8vE0Z8vE0Y9vG0Z9vG0cF",
    "u10dFu10YBu10ZBu10YBv30ZBv30YBvH0ZBvH0YCv30ZCv30dnMu40dnNu40YCvH0ZCvH0YCvD0ZCvD0YDu10ZDu10YDu7",
    "0ZDu70YDv30ZDv30YEu70ZEu70YEv30ZEv30YEvH0ZEvH0YEvD0ZEvD0cLu10dLu10cLu80dLu80gCu00gDu00gCu10gDu",
    "10YGu10ZGu10YGu70ZGu70YIu70ZIu70YIv30ZIv30doQu40doRu40YIvH0ZIvH0YJu70ZJu70YJv30ZJv30gQu70gRu70",
    "h0u70h1u70dp2u70dp3u70YKu70ZKu70YKv30ZKv30YKvH0ZKvH0YKvD0ZKvD0YLv40ZLv40YLvG0ZLvG0YLvD0ZLvD0h8",
    "u10h9u10hAu80hBu80YMu30ZMu30YMv30ZMv30YNu00ZNu00YNu10ZNu10YNu80ZNu80YNu70ZNu70YNv30ZNv30YOu70Z",
    "Ou70YOu80ZOu80YPu70ZPu70YQu20ZQu20YQv30ZQv30YQvH0ZQvH0Z8vH0ZKu80ZNuA0ZPuA1hVu74Y1v30Z1v30Y1u90",
    "Z1u90c2u10d2u10c2u00d2u00c2u90d2u90c2u30d2u30dr0u20dr1u20e2u10e3u10e2u00e3u00e2u90e3u90e2u30e3",
    "u30dr0u60dr1u60Y5v30Z5v30Y5u90Z5u90Y5u30Z5u30cAu10dAu10cAu00dAu00cAu90dAu90cAu30dAu30drOu20drP",
    "u20Y9u90Z9u90Y9v30Z9v30YFv30ZFv30YFu90ZFu90cKu10dKu10cKu00dKu00cKu90dKu90cKu30dKu30dsCu20dsDu2",
    "0j0u10j1u10j0u00j1u00j0u90j1u90j0u30j1u30j0v30j1v30YLv30ZLv30YLu90ZLu90jFu10jGu10jFu00jGu00jFu",
    "90jGu90jFu30jGu30jFv30jGv30YPu00ZPu00YPv30ZPv30YPu90ZPu90YPu30ZPu36zHuJ0zHuK0du0u00du1u00du0u1",
    "0du1u10du0w20du1w20yHuJ0yHuK0du8u00du9u00du8u10du9u10du8w20du9w20zLuJ0zLuK0duGu00duHu00duGu10d",
    "uHu12yLuJ0yLuK0duOu00duPu00duOu10duPu12zNuJ0zNuK0dv0u00dv1u00dv0u10dv1u10dv0w20dv1w20yNuJ0yNuK",
    "0dv8u00dv9u00dv8u10dv9u10dv8w20dv9w20zPuJ0zPuK0dvGu00dvHu00dvGu10dvHu10dvGw20dvHw20yPuJ0yPuK0d",
    "vOu00dvPu00dvOu10dvPu10dvOw20dvPw20zVuJ0zVuK0dw0u00dw1u00dw0u10dw1u12yVuJ0yVuK0dw8u00dw9u00dw8",
    "u10dw9u12+5uJ0+5uK0dwGu00dwHu00dwGu10dwHu10dwGw20dwHw21z5uK1dwPu01dwPu11dwPw20+9uJ0+9uK0dx0u00",
    "dx1u00dx0u10dx1u10dx0w20dx1w20z9uJ0z9uK0dx8u00dx9u00dx8u10dx9u10dx8w20dx9w20zHu01zLu01zNu01zPu",
    "01zVu01+5u01+9u03du0w50du1w50du2w50du3w50du4w50du5w50du6w50du7w50du8w50du9w50duAw50duBw50duCw5",
    "0duDw50duEw50duFw50dv0w50dv1w50dv2w50dv3w50dv4w50dv5w50dv6w50dv7w50dv8w50dv9w50dvAw50dvBw50dvC",
    "w50dvDw50dvEw50dvFw50dx0w50dx1w50dx2w50dx3w50dx4w50dx5w50dx6w50dx7w50dx8w50dx9w50dxAw50dxBw50d",
    "xCw50dxDw50dxEw50dxFw50zHu60zHu40dxGw50zHw50zCw51zHw20dzMw50yHu60yHu40yHu01yHw54b8w20dxKw50zNw",
    "50zEw51zNw20d+6w50yLu01yNu01yNw50dzVu00dzVu10dzVw20zPu60zPu40+Au03zPw20+Aw20yPu60yPu40yPu02d-U",
    "u00d-Uu10d-Uw20+5u60+5u40+Bu01+1uJ0+1uK0+5w20+Bw20z5u60z5u40z5u01z1uK0b8u04dxSw50+9w50+Ew51+9w",
    "20d-Mw50yVu01z9u01z9w5iTeiGvO0eiIvOIeiKvOUekGvO0ekKvO0ekIvOXKem3vO4em8vO2emBvONen3vO1en5vOQenS",
    "vO2eo3vO2eo5vO1eo8vOMXTvO1ep1vOAeoDvO0XSvO0XUvO0ep4vO0ep5vO2epIvO0epJvO2epMvO0epNvO6epQvO0epRv",
    "O2eq2vO0eq3vO2eq6vO0eq7vOX2er2vO0er8vO0er9vO0erBvOXGepSvO0epTvO0eqHvO0eqIvO6erIvO0erJvO0erKvO0",
    "erLvOZgUiYBiaP1iYDiaP1iYFiaP1iYHiaP1iYJiaP1iYLiaP1iYNiaP1iYPiaP1iYRiaP1iYTiaP1iYViaP1iZ1iaP2iZ",
    "4iaP1iZ6iaP1iZ8iaP6iZFiaP0iZFiaQ1iZIiaP0iZIiaQ1iZLiaP0iZLiaQ1iZOiaP0iZOiaQ1iZRiaP0iZRiaQMiY6ia",
    "P9iaTiaPDibBiaP1ibDiaP1ibFiaP1ibHiaP1ibJiaP1ibLiaP1ibNiaP1ibPiaP1ibRiaP1ibTiaP1ibViaP1ic1iaP2i",
    "c4iaP1ic6iaP1ic8iaP6icFiaP0icFiaQ1icIiaP0icIiaQ1icLiaP0icLiaQ1icOiaP0icOiaQ1icRiaP0icRiaQMib6i",
    "aP2idFiaP0idGiaP0idHiaP0idIiaP3idTiaPXtyRYaaPYabQ1YaaRYabQEYab5YabQa2YafHYaf70YafIYaf7mRYaw7Ya",
    "vU0Yaw7YawNhEYbbPYbbQ0YbbPYbbG1YbbPYbbTdRYbjOYbjF0YbjPYbjFxSYcfLYcfG"]

/-- The composites, in the order of their code points. -/
def composites : List Composite := compositesFrom 0 (Packed.numbers packedComposites)

/-- Code points with other code points that belong to each of them, from groups of a gap to
the one before and those others. -/
def entriesFrom (next : Nat) : List (List Nat) → List (Nat × List Nat)
  | (gap :: others) :: r => (next + gap, others) :: entriesFrom (next + gap + 1) r
  | _ => []

/-- The packed equivalences that are only resolved: the size of a group, the gap to the code
point of the one before, and what the character is resolved into. -/
def packedResolutions : String :=
  String.join [
    "2w0u020u121uJ30u8u12XFrP29XR28bN3XkGYeLYfS30YeMYfS30YeNYfS30YeSYfS30Yf1YfS30Yf2YfS30YfBYfS30Yf",
    "FYfS3ZSYj1YjS30Yj2YjS31YjFYjS3YJYnIYnS32YnOYnS3X2YmMYnS30YmNYnS30YmSYnS32YnBYnS3dTYv1YvS30Yv2Y",
    "vS3-5Zw2ZzN39ZwCZzN34ZwHZzN34ZwMZzN34ZwRZzN3CZw0ZzL39ZxHZxI31ZxHZxK30ZzIZy031ZzJZy038ZxHZy03HZ",
    "yIZzN39ZySZzN34Zz1ZzN34Zz6ZzN34ZzBZzN3CZyGZzL2ZzNzC21zD21zE21zF21+C21+D21+E2XTy622zP2Ay821y927",
    "yG27yA27zG27yE22y520Z029yC21yF21bK22eW220eW32f4z923YB20c52lTiW820iW93XzHgsTvO2Xpn3XZY820vtK20X",
    "ZsA20XZc820xsH20pnI20q-520XdyS20XdyS20sgH20XakH20ri720sg820ulM20zp920-y520XXnV20XXzQ20XYdO20Xa",
    "aF20wm220xeR20ycP20y+U20XXXT20XahA20XclH20pq220qxL20wu420ymR20XXnD20XdmU20tgG20x-B20XXkD20XYh4",
    "20us920XWkO20XYWV20tsA20vuN20xhA20ytS20XacE20py620qjN20qsU20vc420wsJ20ymG20zt720XWW120XXm620XX",
    "oS20XZlF20XbvI20XcxF20XdlQ20+aC20+hV20-j020XW+920Xau420XdpV20XYsM20scV20tu420-Z020XWZU20yp220+",
    "cA20XZc220XbtN20scO20tZ220wmJ20xkQ20xuF20-fF20-nN20XboB20qsI20XWaB20qkS20qkC20+mS20-jU20XW-H20",
    "XbpL20XYy020usF20wm220XYtU20pnP20s-720uWI20yy720zhG20quN20+dR20pzV20tz920pmD20xcC20vhO20-f220q",
    "+320sYU20zu120XXY920XYrA20wzQ20XZzG20xa820utU20XWt520uz020zh520prE20qh920qk920wa120-d720XWpF20",
    "XYsI20XakF20qtL20rY220shJ20ttC20vk520x-U20+fA20XbjD20XcpA20XdqN20XdsE20qqR20vs620wxN20XZx220tp",
    "K20uiG20um020vaQ20xv320yg920za920+kA20-lK20XWZF20XZv620XXdE20XaX320XawA20qmN20qr320rbT20yc820X",
    "Yc220XYrA20ts920t-L20uxR20wzE20-XU20yxL20pt420rtP20s-720tjQ20uWS20yzI20zZ920-yQ20XWY620XanK20X",
    "btM20Xbw820XcWO20pyB20+jE20XajK20XbrO20ud120pq620qcQ20s-E20tXV20viP20wm220ykE20zo220XXdS20XaZS",
    "20XdyD20vq820XbnE20qq920vxR20v-J20xg120xqS20zW920zgP20+ZB20-eG20XcYU20qhD20unE20XbpO20qXB20teP",
    "20xlA20XZvA20tyB20ug420wWN20yy720Xbq620qn920rWF20tZ520vmJ20vwE20wb820xd520zW620zl220-xP20XYcF2",
    "0XYd120XakC20Xbt220qvV20xrQ20rWT20ykG20zaO20XXlQ20Xbr320XdYN20XdqV20vyN20xkB20XWl820+sB20+v020",
    "-aI20ys020yaP20XYwO20ps020XWvM20qnQ20qm720tr620usJ20-cM20sy520xeU20vrK20XZvR20XYYC20XboD20XYiB",
    "20tsJ20qg020rk022sYQ21vpK22qkU20yvA20zsA20+fS20+gU20+h520+iF20XbwM20-bU20-zT21XXmI21XYtO22XaXO",
    "20XadT23XcdF20XcdS20Xcf820XdjK20XacU20XbrN20pzE20qd720qgD20qs920qt420qwH20riT20rm620rp820sY020",
    "sb820tZ420tZE20uaK20uh820uiE20ulI20vgF20vl220vqH20wa520xhN20xmQ20xv220yhE20ynB20zX220+aH20+fU2",
    "0+g920+g820+gG20+gM20+gT20+iD20+iE20+o020+q120++020-lK20-m920-o120-xI20XWW520XWlD20XWpP20XWpP2",
    "0XXYN20XYeG20XYiM20XYu120XYvP20XZcJ20XZe820XZzM20XaXO20Xbt320Xb-V20XcXR20uZL20amtE20XWmO22pn62",
    "0qjL20qh820py020qg520qi020qs720qtQ20riT20rgL20riP20rl220sYQ20sbJ20sg420sgK20sp220sv820tsI20tsP",
    "20tx920tzD20ucO20ugE20ue820uiE20uh020ulI20unK20u+420vWS20vYI20vgM20vpK20vuN20vuR20vwM20wxP20wz",
    "Q20xg120xsR20xsB20xv220yWU20yhE20zz720ynL20yrF20yvA20zZH20ze620zfR20zmT20zmV20zsA20zsR20ztK20z",
    "wA20zw020+cC20+rH20++020-ZR20-gR20-lK20-vU20XWW520XWwI20XW-F20XXxP20XYg120XYi620XYiM20XYrV20XY",
    "tO20XYsB20XYu120XYtU20XYtD20XYvP20XYyA20XZe820XZvO20XaZI20XaiP20XapM20XbpS20Xbt320XbwM20Xb+R20",
    "Xb-V20XcWB20XcXR20XcuI20XdyS20agYA20agY420ai+L20kyT20mWO20mXP20aqo920atcG20a-sJ20Xdw320XdyE3Y3",
    "XkPXjK31XlIXjN3AXl9Xk130Xl9Xk230X+w9Xk130X+w9Xk230XkGXjN30XkGXjO30XkGXjS30XkHXjS30XkIXjS30XkJX",
    "jS30XkKXjS30XkLXjS30XkMXjS31XkOXjS30XkPXjS30XkQXjS30XkRXjS30XkSXjS31XkUXjS31Xl0XjS30Xl1XjS31Xl",
    "3XjS30Xl4XjS31Xl6XjS30Xl7XjS30Xl8XjS30Xl9XjS30XlAXjS30XkLXjP30XkHXjV30XkRXjV30Xl4XjV3XrmFZqgNZ",
    "qh530ZqgOZqh530ZqgVZqhE30ZqgVZqhF30ZqgVZqhG30ZqgVZqhH30ZqgVZqhI3YMZqjPZqh530ZqjQZqh530ZqjRZqhE",
    "30ZqjSZqhE30ZqjRZqhF30ZqjSZqhF2YfnVpnT20pnO20po120aWf220px020pzE20pzR20qW220qZQ20qaP20qd720qcF",
    "20jaU20aXnQ20qgD20qgK20qh420qhN20aXeS20jbP20qh720qiD20aXgB20qiN20qj420psC20qjC20qjL20bakV20qlL",
    "20qm320jcV20qnR20qo620qpI20qpN20jeL20qs720qs920qt420qtQ20qu520qu620quN20qw920qwH20qwQ20qxJ20qx",
    "T20qxV20qxV20qxV20aYnC20yZG20q+A20q+V20aYx320q-B20q-H20rW620raU20rXO20rY820rZ820rb220rdM20reG2",
    "0rgJ20rh320ri420ri420riP20rjB20rjJ20rk220ruM20rm620ruN20roH20rpK20qm720sdE20r+E20r-K20sWD20ryB",
    "20sXI20sXH20sbC20abd420sdI20sdN20se620seQ20sf220sh220abr820abtA20slC20smR20sn720skO20sp620jtE2",
    "0jtS20su820svU20svU20ack820s+320s+O20s-720s-J20acuO20s-V20tW620twJ20tX220jy120tZ020tZE20tc020t",
    "aD20adl420tg320adl620thE20thB20thS20tl120tl220kXF20tlT20tn820tnT20tp920kZ220aei320kZS20trG20tr",
    "J20trM20tsA20beyI20ttU20aevH20aevH20XWm120tv220tv220kc720airO20aukQ20tx220txB20kd320tyQ20t+D20",
    "t+N20t-P20ua120kfQ20keS20uaK20afsK20uc720ug820ugC20ugE20ugC20uhQ20uiE20ujI20uj420ujF20ukU20ulI",
    "20ulM20umG20umR20uoT20urH20usK20uwG20aguC20uvT20utS20ux820uy320u-420ag-H20vX220u+520uz920knE20",
    "vZ920vZU20vaT20vZN20kpC20vgF20vhC20aiWA20vl320vtO20vo920kuP20vqH20ku820kt420qiI20qiL20vu020vqS",
    "20XWbD20m+P20vuN20vuR20vv120vwU20vwJ20ai+320kw920v-Q20vy520wYI20wa520ajZD20waE20wWV20weK20kyT2",
    "0wg220wj320wlA20wr820ajr320wsR20lWO20wv120akb720wwK20lYE20wxI20wyV20wzQ20wzR20akqD20adeB20aktQ",
    "20xYE20albS20xbV20xcD20xZ720xeM20xfU20xhN20xg120xh920xhO20xi520aleU20xfK20xnF20xpE20lfJ20xsB20",
    "xs720alsH20xlP20xxE20alwU20alyE20x+620yXP20yWU20yWR20liM20yYA20yZT20yZN20ybD20aXf520yg520amp32",
    "0yiS20amzB20yn820ynL20yoG20anm820yq020yqL20anvL20aoWK20yxQ20yyB20lrC20yz520lrO20lrO20zY720zYS2",
    "0zZH20za520zcA20luR20zf420apXM20zfU20apaI20zhG20aeiV20zmG20apz120apzO20aqY420l-S20mW820ztK20aq",
    "dJ20aqdI20aqeP20aqfJ20zuU20zuV20zuV20zwA20mXP20zyB20mY620maM20arWT20+YE20+aC20+cC20md320arn620",
    "+gM20arqQ20ars520+iF20+lB20mfF20+o020+oA20+oF20ashS20asr720asr720+tE20mm220aszB20++620++920mn7",
    "20ata020-cI20mr020-d820-d320-e020aty620-h320mu120-k720-m220-o520mvK20aun820auo720mwP20ausP20-x",
    "Q20auvU20-yL20--Q20XWW520avcQ20avf320XWZ020avj820XWZG20aiwV20m+L20XWbI20XWe320nWB20XWfU20srL20",
    "avz720avzL20aiyJ20aiyS20XWm120XWm420XZyU20nZB20XWqH20XWqB20XWqT20qrJ20XWrH20XWrJ20XWrT20XWt620",
    "awvS20XWt520XWuT20XWx320XWzD20XWv320XWzT20XW-720XXYN20XWwJ20XW+A20XW+C20XW+S20axXM20axhB20axcL",
    "20nfB20XXdH20XXdJ20XXeM20ay+A20XXh420axvC20ngT20nh120axzH20aycI20nhB20XXoG20XXoS20XXp720XXp920",
    "XXr920XXq820XXuE20XXt220XXxP20XXv820XXxB20XXy620nkN20XX-120XYW120nlP20XYZ020XYZ320azp720XYcN20",
    "XYcU20nnL20XYdQ20jbR20a+bE20a+h620nrU20ns720XYr020XYtD20XYyA20XZYL20a-b820XZbB20XZc120XZeR20XZ",
    "hN20a-vF20aYW420XZkB20XZjS20XZlG20aYcU20XZsK20XZvO20bXkI20bXlD20XaaK20XadH20XaeH20bXvE20XaeR20",
    "XanO20XasN20XasO20XapS20Xa-P20XbWL20bY-Q20XbiB20oiL20XbjN20bZhN20ol620Xbs320tjI20Xbv320bag520b",
    "amQ20opE20opM20Xb-020bbWA20orI20bbaM20XcWB20XcWB20XcX920bbjM20Xcd220ovJ20Xcf920Xcj720Xck220Xcl",
    "U20o+E20bcvG20XcuI20XdY020XddT20pcE20pdD20Xdh720becE20pdO20bee520bemE20beqH20XdrR20pgM20XdtP20",
    "XdtU20Xdu520XduF20XduM20XdvR20bfm0"]

/-- The equivalences that are only resolved. -/
def resolutions : List (Nat × List Nat) :=
  entriesFrom 0 (Packed.groups (Packed.numbers packedResolutions))

end ImageSync.Unicode
